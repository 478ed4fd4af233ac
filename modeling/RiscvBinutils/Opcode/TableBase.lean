/-
The table `riscv_opcodes` (opcodes/riscv-opc.c) up to the vector instructions, in the order of the source.
The values of `MATCH_*` and `MASK_*` are those of include/opcode/riscv-opc.h.
-/
import RiscvBinutils.Opcode.Row

namespace RiscvBinutils.Opcode

/-- Standard hints. -/
def hintInsns : List RiscvOpcodeRow := [
  ⟨"prefetch.i", 0, .zicbop, "Wif(s)", 0x6013#64, 0x1f07fff#64, .opcode, 0⟩,
  ⟨"prefetch.r", 0, .zicbop, "Wif(s)", 0x106013#64, 0x1f07fff#64, .opcode, 0⟩,
  ⟨"prefetch.w", 0, .zicbop, "Wif(s)", 0x306013#64, 0x1f07fff#64, .opcode, 0⟩,
  ⟨"ntl.p1", 0, .zihintntlAndC, "", 0x900a#64, 0xffff#64, .opcode, insnAlias⟩,
  ⟨"ntl.p1", 0, .zihintntl, "", 0x200033#64, 0xffffffff#64, .opcode, 0⟩,
  ⟨"ntl.pall", 0, .zihintntlAndC, "", 0x900e#64, 0xffff#64, .opcode, insnAlias⟩,
  ⟨"ntl.pall", 0, .zihintntl, "", 0x300033#64, 0xffffffff#64, .opcode, 0⟩,
  ⟨"ntl.s1", 0, .zihintntlAndC, "", 0x9012#64, 0xffff#64, .opcode, insnAlias⟩,
  ⟨"ntl.s1", 0, .zihintntl, "", 0x400033#64, 0xffffffff#64, .opcode, 0⟩,
  ⟨"ntl.all", 0, .zihintntlAndC, "", 0x9016#64, 0xffff#64, .opcode, insnAlias⟩,
  ⟨"ntl.all", 0, .zihintntl, "", 0x500033#64, 0xffffffff#64, .opcode, 0⟩,
  ⟨"c.ntl.p1", 0, .zihintntlAndC, "", 0x900a#64, 0xffff#64, .opcode, 0⟩,
  ⟨"c.ntl.pall", 0, .zihintntlAndC, "", 0x900e#64, 0xffff#64, .opcode, 0⟩,
  ⟨"c.ntl.s1", 0, .zihintntlAndC, "", 0x9012#64, 0xffff#64, .opcode, 0⟩,
  ⟨"c.ntl.all", 0, .zihintntlAndC, "", 0x9016#64, 0xffff#64, .opcode, 0⟩,
  ⟨"pause", 0, .zihintpause, "", 0x100000f#64, 0xffffffff#64, .opcode, 0⟩]

/-- Basic RVI instructions and aliases. -/
def baseInsns : List RiscvOpcodeRow := [
  ⟨"unimp", 0, .c, "", 0#64, 0xffff#64, .opcode, insnAlias⟩,
  ⟨"unimp", 0, .i, "", 0xffffffffc0001073#64, 0xffffffff#64, .opcode, 0⟩,
  ⟨"ebreak", 0, .c, "", 0x9002#64, 0xffff#64, .opcode, insnAlias⟩,
  ⟨"ebreak", 0, .i, "", 0x100073#64, 0xffffffff#64, .opcode, 0⟩,
  ⟨"sbreak", 0, .c, "", 0x9002#64, 0xffff#64, .opcode, insnAlias⟩,
  ⟨"sbreak", 0, .i, "", 0x100073#64, 0xffffffff#64, .opcode, insnAlias⟩,
  ⟨"ret", 0, .c, "", 0x8082#64, 0xffff#64, .opcode, insnAlias ||| insnBranch⟩,
  ⟨"ret", 0, .i, "", 0x8067#64, 0xffffffff#64, .opcode, insnAlias ||| insnBranch⟩,
  ⟨"jr", 0, .c, "d", 0x8002#64, 0xf07f#64, .rdNonzero, insnAlias ||| insnBranch⟩,
  ⟨"jr", 0, .i, "s", 0x67#64, 0xfff07fff#64, .opcode, insnAlias ||| insnBranch⟩,
  ⟨"jr", 0, .i, "o(s)", 0x67#64, 0x7fff#64, .opcode, insnAlias ||| insnBranch⟩,
  ⟨"jr", 0, .i, "s,j", 0x67#64, 0x7fff#64, .opcode, insnAlias ||| insnBranch⟩,
  ⟨"jalr", 0, .c, "d", 0x9002#64, 0xf07f#64, .rdNonzero, insnAlias ||| insnJsr⟩,
  ⟨"jalr", 0, .i, "s", 0xe7#64, 0xfff07fff#64, .opcode, insnAlias ||| insnJsr⟩,
  ⟨"jalr", 0, .i, "o(s)", 0xe7#64, 0x7fff#64, .opcode, insnAlias ||| insnJsr⟩,
  ⟨"jalr", 0, .i, "s,j", 0xe7#64, 0x7fff#64, .opcode, insnAlias ||| insnJsr⟩,
  ⟨"jalr", 0, .i, "d,s", 0x67#64, 0xfff0707f#64, .opcode, insnAlias ||| insnJsr⟩,
  ⟨"jalr", 0, .i, "d,o(s)", 0x67#64, 0x707f#64, .opcode, insnJsr⟩,
  ⟨"jalr", 0, .i, "d,s,j", 0x67#64, 0x707f#64, .opcode, insnJsr⟩,
  ⟨"j", 0, .c, "Ca", 0xa001#64, 0xe003#64, .opcode, insnAlias ||| insnBranch⟩,
  ⟨"j", 0, .i, "a", 0x6f#64, 0xfff#64, .opcode, insnAlias ||| insnBranch⟩,
  ⟨"jal", 32, .c, "Ca", 0x2001#64, 0xe003#64, .opcode, insnAlias ||| insnJsr⟩,
  ⟨"jal", 0, .i, "a", 0xef#64, 0xfff#64, .opcode, insnAlias ||| insnJsr⟩,
  ⟨"jal", 0, .i, "d,a", 0x6f#64, 0x7f#64, .opcode, insnJsr⟩,
  ⟨"call", 0, .i, "d,c", 0x30000#64, 0x8#64, .null, insnMacro⟩,
  ⟨"call", 0, .i, "c", 0x8080#64, 0x8#64, .null, insnMacro⟩,
  ⟨"tail", 0, .i, "c", 0x30000#64, 0x8#64, .null, insnMacro⟩,
  ⟨"jump", 0, .i, "c,s", 0#64, 0x8#64, .rs1Nonzero, insnMacro⟩,
  ⟨"nop", 0, .c, "", 0x1#64, 0xffff#64, .opcode, insnAlias⟩,
  ⟨"nop", 0, .i, "", 0x13#64, 0xffffffff#64, .opcode, insnAlias⟩,
  ⟨"lui", 0, .c, "d,Cu", 0x6001#64, 0xe003#64, .cLui, insnAlias⟩,
  ⟨"lui", 0, .i, "d,u", 0x37#64, 0x7f#64, .opcode, 0⟩,
  ⟨"li", 0, .c, "d,Cv", 0x6001#64, 0xe003#64, .cLui, insnAlias⟩,
  ⟨"li", 0, .c, "d,Co", 0x4001#64, 0xe003#64, .rdNonzero, insnAlias⟩,
  ⟨"li", 0, .i, "d,j", 0x13#64, 0xff07f#64, .opcode, insnAlias⟩,
  ⟨"li", 0, .i, "d,I", 0#64, 0xa#64, .null, insnMacro⟩,
  ⟨"mv", 0, .c, "d,CV", 0x8002#64, 0xf003#64, .cAdd, insnAlias⟩,
  ⟨"mv", 0, .i, "d,s", 0x13#64, 0xfff0707f#64, .opcode, insnAlias⟩,
  ⟨"move", 0, .c, "d,CV", 0x8002#64, 0xf003#64, .cAdd, insnAlias⟩,
  ⟨"move", 0, .i, "d,s", 0x13#64, 0xfff0707f#64, .opcode, insnAlias⟩,
  ⟨"zext.b", 0, .zcb, "Cs,Cw", 0x9c61#64, 0xfc7f#64, .opcode, insnAlias⟩,
  ⟨"zext.b", 0, .i, "d,s", 0xff07013#64, 0xfff0707f#64, .opcode, insnAlias⟩,
  ⟨"andi", 0, .zcb, "Cs,Cw,Wcf", 0x9c61#64, 0xfc7f#64, .opcode, insnAlias⟩,
  ⟨"andi", 0, .c, "Cs,Cw,Co", 0x8801#64, 0xec03#64, .opcode, insnAlias⟩,
  ⟨"andi", 0, .i, "d,s,j", 0x7013#64, 0x707f#64, .opcode, 0⟩,
  ⟨"and", 0, .c, "Cs,Cw,Ct", 0x8c61#64, 0xfc63#64, .opcode, insnAlias⟩,
  ⟨"and", 0, .c, "Cs,Ct,Cw", 0x8c61#64, 0xfc63#64, .opcode, insnAlias⟩,
  ⟨"and", 0, .c, "Cs,Cw,Co", 0x8801#64, 0xec03#64, .opcode, insnAlias⟩,
  ⟨"and", 0, .i, "d,s,t", 0x7033#64, 0xfe00707f#64, .opcode, 0⟩,
  ⟨"and", 0, .i, "d,s,j", 0x7013#64, 0x707f#64, .opcode, insnAlias⟩,
  ⟨"beqz", 0, .c, "Cs,Cp", 0xc001#64, 0xe003#64, .opcode, insnAlias ||| insnCondbranch⟩,
  ⟨"beqz", 0, .i, "s,p", 0x63#64, 0x1f0707f#64, .opcode, insnAlias ||| insnCondbranch⟩,
  ⟨"beq", 0, .c, "Cs,Cz,Cp", 0xc001#64, 0xe003#64, .opcode, insnAlias ||| insnCondbranch⟩,
  ⟨"beq", 0, .i, "s,t,p", 0x63#64, 0x707f#64, .opcode, insnCondbranch⟩,
  ⟨"blez", 0, .i, "t,p", 0x5063#64, 0xff07f#64, .opcode, insnAlias ||| insnCondbranch⟩,
  ⟨"bgez", 0, .i, "s,p", 0x5063#64, 0x1f0707f#64, .opcode, insnAlias ||| insnCondbranch⟩,
  ⟨"bge", 0, .i, "s,t,p", 0x5063#64, 0x707f#64, .opcode, insnCondbranch⟩,
  ⟨"bgeu", 0, .i, "s,t,p", 0x7063#64, 0x707f#64, .opcode, insnCondbranch⟩,
  ⟨"ble", 0, .i, "t,s,p", 0x5063#64, 0x707f#64, .opcode, insnAlias ||| insnCondbranch⟩,
  ⟨"bleu", 0, .i, "t,s,p", 0x7063#64, 0x707f#64, .opcode, insnAlias ||| insnCondbranch⟩,
  ⟨"bltz", 0, .i, "s,p", 0x4063#64, 0x1f0707f#64, .opcode, insnAlias ||| insnCondbranch⟩,
  ⟨"bgtz", 0, .i, "t,p", 0x4063#64, 0xff07f#64, .opcode, insnAlias ||| insnCondbranch⟩,
  ⟨"blt", 0, .i, "s,t,p", 0x4063#64, 0x707f#64, .opcode, insnCondbranch⟩,
  ⟨"bltu", 0, .i, "s,t,p", 0x6063#64, 0x707f#64, .opcode, insnCondbranch⟩,
  ⟨"bgt", 0, .i, "t,s,p", 0x4063#64, 0x707f#64, .opcode, insnAlias ||| insnCondbranch⟩,
  ⟨"bgtu", 0, .i, "t,s,p", 0x6063#64, 0x707f#64, .opcode, insnAlias ||| insnCondbranch⟩,
  ⟨"bnez", 0, .c, "Cs,Cp", 0xe001#64, 0xe003#64, .opcode, insnAlias ||| insnCondbranch⟩,
  ⟨"bnez", 0, .i, "s,p", 0x1063#64, 0x1f0707f#64, .opcode, insnAlias ||| insnCondbranch⟩,
  ⟨"bne", 0, .c, "Cs,Cz,Cp", 0xe001#64, 0xe003#64, .opcode, insnAlias ||| insnCondbranch⟩,
  ⟨"bne", 0, .i, "s,t,p", 0x1063#64, 0x707f#64, .opcode, insnCondbranch⟩,
  ⟨"addi", 0, .c, "Ct,Cc,CK", 0#64, 0xe003#64, .cAddi4spn, insnAlias⟩,
  ⟨"addi", 0, .c, "d,CU,Cj", 0x1#64, 0xe003#64, .rdNonzero, insnAlias⟩,
  ⟨"addi", 0, .c, "d,CU,z", 0x1#64, 0xf07f#64, .cNop, insnAlias⟩,
  ⟨"addi", 0, .c, "Cc,Cc,CL", 0x6101#64, 0xef83#64, .cAddi16sp, insnAlias⟩,
  ⟨"addi", 0, .c, "d,Cz,Co", 0x4001#64, 0xe003#64, .rdNonzero, insnAlias⟩,
  ⟨"addi", 0, .c, "d,CV,z", 0x8002#64, 0xf003#64, .cAdd, insnAlias⟩,
  ⟨"addi", 0, .i, "d,s,j", 0x13#64, 0x707f#64, .opcode, 0⟩,
  ⟨"add", 0, .c, "d,CU,CV", 0x9002#64, 0xf003#64, .cAdd, insnAlias⟩,
  ⟨"add", 0, .c, "d,CV,CU", 0x9002#64, 0xf003#64, .cAdd, insnAlias⟩,
  ⟨"add", 0, .c, "d,CU,Co", 0x1#64, 0xe003#64, .rdNonzero, insnAlias⟩,
  ⟨"add", 0, .c, "Ct,Cc,CK", 0#64, 0xe003#64, .cAddi4spn, insnAlias⟩,
  ⟨"add", 0, .c, "Cc,Cc,CL", 0x6101#64, 0xef83#64, .cAddi16sp, insnAlias⟩,
  ⟨"add", 0, .c, "d,Cz,CV", 0x8002#64, 0xf003#64, .cAdd, insnAlias⟩,
  ⟨"add", 0, .i, "d,s,t", 0x33#64, 0xfe00707f#64, .opcode, 0⟩,
  ⟨"add", 0, .i, "d,s,t,1", 0x33#64, 0xfe00707f#64, .opcode, 0⟩,
  ⟨"add", 0, .i, "d,s,j", 0x13#64, 0x707f#64, .opcode, insnAlias⟩,
  ⟨"la", 0, .i, "d,B", 0#64, 0#64, .rdNonzero, insnMacro⟩,
  ⟨"lla", 0, .i, "d,B", 0#64, 0x1#64, .null, insnMacro⟩,
  ⟨"lga", 0, .i, "d,B", 0#64, 0x2#64, .rdNonzero, insnMacro⟩,
  ⟨"la.tls.gd", 0, .i, "d,A", 0#64, 0x3#64, .null, insnMacro⟩,
  ⟨"la.tls.ie", 0, .i, "d,A", 0#64, 0x4#64, .rdNonzero, insnMacro⟩,
  ⟨"neg", 0, .i, "d,t", 0x40000033#64, 0xfe0ff07f#64, .opcode, insnAlias⟩,
  ⟨"slli", 0, .c, "d,CU,C>", 0x2#64, 0xe003#64, .slliAsCSlli, insnAlias⟩,
  ⟨"slli", 0, .i, "d,s,>", 0x1013#64, 0xfc00707f#64, .opcode, 0⟩,
  ⟨"sll", 0, .c, "d,CU,C>", 0x2#64, 0xe003#64, .slliAsCSlli, insnAlias⟩,
  ⟨"sll", 0, .i, "d,s,t", 0x1033#64, 0xfe00707f#64, .opcode, 0⟩,
  ⟨"sll", 0, .i, "d,s,>", 0x1013#64, 0xfc00707f#64, .opcode, insnAlias⟩,
  ⟨"srli", 0, .c, "Cs,Cw,C>", 0x8001#64, 0xec03#64, .srxiAsCSrxi, insnAlias⟩,
  ⟨"srli", 0, .i, "d,s,>", 0x5013#64, 0xfc00707f#64, .opcode, 0⟩,
  ⟨"srl", 0, .c, "Cs,Cw,C>", 0x8001#64, 0xec03#64, .srxiAsCSrxi, insnAlias⟩,
  ⟨"srl", 0, .i, "d,s,t", 0x5033#64, 0xfe00707f#64, .opcode, 0⟩,
  ⟨"srl", 0, .i, "d,s,>", 0x5013#64, 0xfc00707f#64, .opcode, insnAlias⟩,
  ⟨"srai", 0, .c, "Cs,Cw,C>", 0x8401#64, 0xec03#64, .srxiAsCSrxi, insnAlias⟩,
  ⟨"srai", 0, .i, "d,s,>", 0x40005013#64, 0xfc00707f#64, .opcode, 0⟩,
  ⟨"sra", 0, .c, "Cs,Cw,C>", 0x8401#64, 0xec03#64, .srxiAsCSrxi, insnAlias⟩,
  ⟨"sra", 0, .i, "d,s,t", 0x40005033#64, 0xfe00707f#64, .opcode, 0⟩,
  ⟨"sra", 0, .i, "d,s,>", 0x40005013#64, 0xfc00707f#64, .opcode, insnAlias⟩,
  ⟨"sub", 0, .c, "Cs,Cw,Ct", 0x8c01#64, 0xfc63#64, .opcode, insnAlias⟩,
  ⟨"sub", 0, .i, "d,s,t", 0x40000033#64, 0xfe00707f#64, .opcode, 0⟩,
  ⟨"lb", 0, .i, "d,o(s)", 0x3#64, 0x707f#64, .opcode, insnDref ||| insn1Byte⟩,
  ⟨"lb", 0, .i, "d,A", 0#64, 0x5#64, .rdNonzero, insnMacro⟩,
  ⟨"lbu", 0, .zcb, "Ct,Wcb(Cs)", 0x8000#64, 0xfc03#64, .opcode, insnAlias ||| insnDref ||| insn1Byte⟩,
  ⟨"lbu", 0, .i, "d,o(s)", 0x4003#64, 0x707f#64, .opcode, insnDref ||| insn1Byte⟩,
  ⟨"lbu", 0, .i, "d,A", 0#64, 0x5#64, .rdNonzero, insnMacro⟩,
  ⟨"lh", 0, .zcb, "Ct,Wch(Cs)", 0x8440#64, 0xfc43#64, .opcode, insnAlias ||| insnDref ||| insn2Byte⟩,
  ⟨"lh", 0, .i, "d,o(s)", 0x1003#64, 0x707f#64, .opcode, insnDref ||| insn2Byte⟩,
  ⟨"lh", 0, .i, "d,A", 0#64, 0x5#64, .rdNonzero, insnMacro⟩,
  ⟨"lhu", 0, .zcb, "Ct,Wch(Cs)", 0x8400#64, 0xfc43#64, .opcode, insnAlias ||| insnDref ||| insn2Byte⟩,
  ⟨"lhu", 0, .i, "d,o(s)", 0x5003#64, 0x707f#64, .opcode, insnDref ||| insn2Byte⟩,
  ⟨"lhu", 0, .i, "d,A", 0#64, 0x5#64, .rdNonzero, insnMacro⟩,
  ⟨"lw", 0, .c, "d,Cm(Cc)", 0x4002#64, 0xe003#64, .rdNonzero, insnAlias ||| insnDref ||| insn4Byte⟩,
  ⟨"lw", 0, .c, "Ct,Ck(Cs)", 0x4000#64, 0xe003#64, .opcode, insnAlias ||| insnDref ||| insn4Byte⟩,
  ⟨"lw", 0, .i, "d,o(s)", 0x2003#64, 0x707f#64, .opcode, insnDref ||| insn4Byte⟩,
  ⟨"lw", 0, .i, "d,A", 0#64, 0x5#64, .rdNonzero, insnMacro⟩,
  ⟨"not", 0, .zcb, "Cs,Cw", 0x9c75#64, 0xfc7f#64, .opcode, insnAlias⟩,
  ⟨"not", 0, .i, "d,s", 0xfff04013#64, 0xfff0707f#64, .opcode, insnAlias⟩,
  ⟨"ori", 0, .i, "d,s,j", 0x6013#64, 0x707f#64, .opcode, 0⟩,
  ⟨"or", 0, .i, "d,s,j", 0x6013#64, 0x707f#64, .opcode, insnAlias⟩,
  ⟨"or", 0, .c, "Cs,Cw,Ct", 0x8c41#64, 0xfc63#64, .opcode, insnAlias⟩,
  ⟨"or", 0, .c, "Cs,Ct,Cw", 0x8c41#64, 0xfc63#64, .opcode, insnAlias⟩,
  ⟨"or", 0, .i, "d,s,t", 0x6033#64, 0xfe00707f#64, .opcode, 0⟩,
  ⟨"auipc", 0, .i, "d,u", 0x17#64, 0x7f#64, .opcode, 0⟩,
  ⟨"seqz", 0, .i, "d,s", 0x103013#64, 0xfff0707f#64, .opcode, insnAlias⟩,
  ⟨"snez", 0, .i, "d,t", 0x3033#64, 0xfe0ff07f#64, .opcode, insnAlias⟩,
  ⟨"sltz", 0, .i, "d,s", 0x2033#64, 0xfff0707f#64, .opcode, insnAlias⟩,
  ⟨"sgtz", 0, .i, "d,t", 0x2033#64, 0xfe0ff07f#64, .opcode, insnAlias⟩,
  ⟨"slti", 0, .i, "d,s,j", 0x2013#64, 0x707f#64, .opcode, 0⟩,
  ⟨"slt", 0, .i, "d,s,t", 0x2033#64, 0xfe00707f#64, .opcode, 0⟩,
  ⟨"slt", 0, .i, "d,s,j", 0x2013#64, 0x707f#64, .opcode, insnAlias⟩,
  ⟨"sltiu", 0, .i, "d,s,j", 0x3013#64, 0x707f#64, .opcode, 0⟩,
  ⟨"sltu", 0, .i, "d,s,t", 0x3033#64, 0xfe00707f#64, .opcode, 0⟩,
  ⟨"sltu", 0, .i, "d,s,j", 0x3013#64, 0x707f#64, .opcode, insnAlias⟩,
  ⟨"sgt", 0, .i, "d,t,s", 0x2033#64, 0xfe00707f#64, .opcode, insnAlias⟩,
  ⟨"sgtu", 0, .i, "d,t,s", 0x3033#64, 0xfe00707f#64, .opcode, insnAlias⟩,
  ⟨"sb", 0, .zcb, "Ct,Wcb(Cs)", 0x8800#64, 0xfc03#64, .opcode, insnDref ||| insn1Byte ||| insnAlias⟩,
  ⟨"sb", 0, .i, "t,q(s)", 0x23#64, 0x707f#64, .opcode, insnDref ||| insn1Byte⟩,
  ⟨"sb", 0, .i, "t,A,s", 0#64, 0x7#64, .rs1Nonzero, insnMacro⟩,
  ⟨"sh", 0, .zcb, "Ct,Wch(Cs)", 0x8c00#64, 0xfc43#64, .opcode, insnDref ||| insn2Byte ||| insnAlias⟩,
  ⟨"sh", 0, .i, "t,q(s)", 0x1023#64, 0x707f#64, .opcode, insnDref ||| insn2Byte⟩,
  ⟨"sh", 0, .i, "t,A,s", 0#64, 0x7#64, .rs1Nonzero, insnMacro⟩,
  ⟨"sw", 0, .c, "CV,CM(Cc)", 0xc002#64, 0xe003#64, .opcode, insnAlias ||| insnDref ||| insn4Byte⟩,
  ⟨"sw", 0, .c, "Ct,Ck(Cs)", 0xc000#64, 0xe003#64, .opcode, insnAlias ||| insnDref ||| insn4Byte⟩,
  ⟨"sw", 0, .i, "t,q(s)", 0x2023#64, 0x707f#64, .opcode, insnDref ||| insn4Byte⟩,
  ⟨"sw", 0, .i, "t,A,s", 0#64, 0x7#64, .rs1Nonzero, insnMacro⟩,
  ⟨"fence", 0, .i, "", 0xff0000f#64, 0xffffffff#64, .opcode, insnAlias⟩,
  ⟨"fence", 0, .i, "P,Q", 0xf#64, 0xf00fffff#64, .opcode, 0⟩,
  ⟨"fence.i", 0, .zifencei, "", 0x100f#64, 0xffffffff#64, .opcode, 0⟩,
  ⟨"fence.tso", 0, .i, "", 0x8330000f#64, 0xffffffff#64, .opcode, 0⟩,
  ⟨"rdcycle", 0, .i, "d", 0xc0002073#64, 0xfffff07f#64, .opcode, insnAlias⟩,
  ⟨"rdinstret", 0, .i, "d", 0xc0202073#64, 0xfffff07f#64, .opcode, insnAlias⟩,
  ⟨"rdtime", 0, .i, "d", 0xc0102073#64, 0xfffff07f#64, .opcode, insnAlias⟩,
  ⟨"rdcycleh", 32, .i, "d", 0xc8002073#64, 0xfffff07f#64, .opcode, insnAlias⟩,
  ⟨"rdinstreth", 32, .i, "d", 0xc8202073#64, 0xfffff07f#64, .opcode, insnAlias⟩,
  ⟨"rdtimeh", 32, .i, "d", 0xc8102073#64, 0xfffff07f#64, .opcode, insnAlias⟩,
  ⟨"ecall", 0, .i, "", 0x73#64, 0xffffffff#64, .opcode, 0⟩,
  ⟨"scall", 0, .i, "", 0x73#64, 0xffffffff#64, .opcode, 0⟩,
  ⟨"xori", 0, .i, "d,s,j", 0x4013#64, 0x707f#64, .opcode, 0⟩,
  ⟨"xor", 0, .i, "d,s,j", 0x4013#64, 0x707f#64, .opcode, insnAlias⟩,
  ⟨"xor", 0, .c, "Cs,Cw,Ct", 0x8c21#64, 0xfc63#64, .opcode, insnAlias⟩,
  ⟨"xor", 0, .c, "Cs,Ct,Cw", 0x8c21#64, 0xfc63#64, .opcode, insnAlias⟩,
  ⟨"xor", 0, .i, "d,s,t", 0x4033#64, 0xfe00707f#64, .opcode, 0⟩,
  ⟨"lwu", 64, .i, "d,o(s)", 0x6003#64, 0x707f#64, .opcode, insnDref ||| insn4Byte⟩,
  ⟨"lwu", 64, .i, "d,A", 0#64, 0x5#64, .rdNonzero, insnMacro⟩,
  ⟨"myadd", 0, .i, "d,s", 0xb#64, 0xfff0707f#64, .opcode, insnAlias⟩,
  ⟨"ld", 64, .c, "d,Cn(Cc)", 0x6002#64, 0xe003#64, .rdNonzero, insnAlias ||| insnDref ||| insn8Byte⟩,
  ⟨"ld", 64, .c, "Ct,Cl(Cs)", 0x6000#64, 0xe003#64, .opcode, insnAlias ||| insnDref ||| insn8Byte⟩,
  ⟨"ld", 64, .i, "d,o(s)", 0x3003#64, 0x707f#64, .opcode, insnDref ||| insn8Byte⟩,
  ⟨"ld", 64, .i, "d,A", 0#64, 0x5#64, .rdNonzero, insnMacro⟩,
  ⟨"sd", 64, .c, "CV,CN(Cc)", 0xe002#64, 0xe003#64, .opcode, insnAlias ||| insnDref ||| insn8Byte⟩,
  ⟨"sd", 64, .c, "Ct,Cl(Cs)", 0xe000#64, 0xe003#64, .opcode, insnAlias ||| insnDref ||| insn8Byte⟩,
  ⟨"sd", 64, .i, "t,q(s)", 0x3023#64, 0x707f#64, .opcode, insnDref ||| insn8Byte⟩,
  ⟨"sd", 64, .i, "t,A,s", 0#64, 0x7#64, .rs1Nonzero, insnMacro⟩,
  ⟨"sext.w", 64, .c, "d,CU", 0x2001#64, 0xf07f#64, .rdNonzero, insnAlias⟩,
  ⟨"sext.w", 64, .i, "d,s", 0x1b#64, 0xfff0707f#64, .opcode, insnAlias⟩,
  ⟨"addiw", 64, .c, "d,CU,Co", 0x2001#64, 0xe003#64, .rdNonzero, insnAlias⟩,
  ⟨"addiw", 64, .i, "d,s,j", 0x1b#64, 0x707f#64, .opcode, 0⟩,
  ⟨"addw", 64, .c, "Cs,Cw,Ct", 0x9c21#64, 0xfc63#64, .opcode, insnAlias⟩,
  ⟨"addw", 64, .c, "Cs,Ct,Cw", 0x9c21#64, 0xfc63#64, .opcode, insnAlias⟩,
  ⟨"addw", 64, .c, "d,CU,Co", 0x2001#64, 0xe003#64, .rdNonzero, insnAlias⟩,
  ⟨"addw", 64, .i, "d,s,t", 0x3b#64, 0xfe00707f#64, .opcode, 0⟩,
  ⟨"addw", 64, .i, "d,s,j", 0x1b#64, 0x707f#64, .opcode, insnAlias⟩,
  ⟨"negw", 64, .i, "d,t", 0x4000003b#64, 0xfe0ff07f#64, .opcode, insnAlias⟩,
  ⟨"slliw", 64, .i, "d,s,<", 0x101b#64, 0xfe00707f#64, .opcode, 0⟩,
  ⟨"sllw", 64, .i, "d,s,t", 0x103b#64, 0xfe00707f#64, .opcode, 0⟩,
  ⟨"sllw", 64, .i, "d,s,<", 0x101b#64, 0xfe00707f#64, .opcode, insnAlias⟩,
  ⟨"srliw", 64, .i, "d,s,<", 0x501b#64, 0xfe00707f#64, .opcode, 0⟩,
  ⟨"srlw", 64, .i, "d,s,t", 0x503b#64, 0xfe00707f#64, .opcode, 0⟩,
  ⟨"srlw", 64, .i, "d,s,<", 0x501b#64, 0xfe00707f#64, .opcode, insnAlias⟩,
  ⟨"sraiw", 64, .i, "d,s,<", 0x4000501b#64, 0xfe00707f#64, .opcode, 0⟩,
  ⟨"sraw", 64, .i, "d,s,t", 0x4000503b#64, 0xfe00707f#64, .opcode, 0⟩,
  ⟨"sraw", 64, .i, "d,s,<", 0x4000501b#64, 0xfe00707f#64, .opcode, insnAlias⟩,
  ⟨"subw", 64, .c, "Cs,Cw,Ct", 0x9c01#64, 0xfc63#64, .opcode, insnAlias⟩,
  ⟨"subw", 64, .i, "d,s,t", 0x4000003b#64, 0xfe00707f#64, .opcode, 0⟩]

/-- Atomic memory operations. -/
def atomicInsns : List RiscvOpcodeRow := [
  ⟨"lr.w", 0, .a, "d,0(s)", 0x1000202f#64, 0xfff0707f#64, .opcode, insnDref ||| insn4Byte⟩,
  ⟨"sc.w", 0, .a, "d,t,0(s)", 0x1800202f#64, 0xfe00707f#64, .opcode, insnDref ||| insn4Byte⟩,
  ⟨"amoadd.w", 0, .a, "d,t,0(s)", 0x202f#64, 0xfe00707f#64, .opcode, insnDref ||| insn4Byte⟩,
  ⟨"amoswap.w", 0, .a, "d,t,0(s)", 0x800202f#64, 0xfe00707f#64, .opcode, insnDref ||| insn4Byte⟩,
  ⟨"amoand.w", 0, .a, "d,t,0(s)", 0x6000202f#64, 0xfe00707f#64, .opcode, insnDref ||| insn4Byte⟩,
  ⟨"amoor.w", 0, .a, "d,t,0(s)", 0x4000202f#64, 0xfe00707f#64, .opcode, insnDref ||| insn4Byte⟩,
  ⟨"amoxor.w", 0, .a, "d,t,0(s)", 0x2000202f#64, 0xfe00707f#64, .opcode, insnDref ||| insn4Byte⟩,
  ⟨"amomax.w", 0, .a, "d,t,0(s)", 0xa000202f#64, 0xfe00707f#64, .opcode, insnDref ||| insn4Byte⟩,
  ⟨"amomaxu.w", 0, .a, "d,t,0(s)", 0xe000202f#64, 0xfe00707f#64, .opcode, insnDref ||| insn4Byte⟩,
  ⟨"amomin.w", 0, .a, "d,t,0(s)", 0x8000202f#64, 0xfe00707f#64, .opcode, insnDref ||| insn4Byte⟩,
  ⟨"amominu.w", 0, .a, "d,t,0(s)", 0xc000202f#64, 0xfe00707f#64, .opcode, insnDref ||| insn4Byte⟩,
  ⟨"lr.w.aq", 0, .a, "d,0(s)", 0x1400202f#64, 0xfff0707f#64, .opcode, insnDref ||| insn4Byte⟩,
  ⟨"sc.w.aq", 0, .a, "d,t,0(s)", 0x1c00202f#64, 0xfe00707f#64, .opcode, insnDref ||| insn4Byte⟩,
  ⟨"amoadd.w.aq", 0, .a, "d,t,0(s)", 0x400202f#64, 0xfe00707f#64, .opcode, insnDref ||| insn4Byte⟩,
  ⟨"amoswap.w.aq", 0, .a, "d,t,0(s)", 0xc00202f#64, 0xfe00707f#64, .opcode, insnDref ||| insn4Byte⟩,
  ⟨"amoand.w.aq", 0, .a, "d,t,0(s)", 0x6400202f#64, 0xfe00707f#64, .opcode, insnDref ||| insn4Byte⟩,
  ⟨"amoor.w.aq", 0, .a, "d,t,0(s)", 0x4400202f#64, 0xfe00707f#64, .opcode, insnDref ||| insn4Byte⟩,
  ⟨"amoxor.w.aq", 0, .a, "d,t,0(s)", 0x2400202f#64, 0xfe00707f#64, .opcode, insnDref ||| insn4Byte⟩,
  ⟨"amomax.w.aq", 0, .a, "d,t,0(s)", 0xa400202f#64, 0xfe00707f#64, .opcode, insnDref ||| insn4Byte⟩,
  ⟨"amomaxu.w.aq", 0, .a, "d,t,0(s)", 0xe400202f#64, 0xfe00707f#64, .opcode, insnDref ||| insn4Byte⟩,
  ⟨"amomin.w.aq", 0, .a, "d,t,0(s)", 0x8400202f#64, 0xfe00707f#64, .opcode, insnDref ||| insn4Byte⟩,
  ⟨"amominu.w.aq", 0, .a, "d,t,0(s)", 0xc400202f#64, 0xfe00707f#64, .opcode, insnDref ||| insn4Byte⟩,
  ⟨"lr.w.rl", 0, .a, "d,0(s)", 0x1200202f#64, 0xfff0707f#64, .opcode, insnDref ||| insn4Byte⟩,
  ⟨"sc.w.rl", 0, .a, "d,t,0(s)", 0x1a00202f#64, 0xfe00707f#64, .opcode, insnDref ||| insn4Byte⟩,
  ⟨"amoadd.w.rl", 0, .a, "d,t,0(s)", 0x200202f#64, 0xfe00707f#64, .opcode, insnDref ||| insn4Byte⟩,
  ⟨"amoswap.w.rl", 0, .a, "d,t,0(s)", 0xa00202f#64, 0xfe00707f#64, .opcode, insnDref ||| insn4Byte⟩,
  ⟨"amoand.w.rl", 0, .a, "d,t,0(s)", 0x6200202f#64, 0xfe00707f#64, .opcode, insnDref ||| insn4Byte⟩,
  ⟨"amoor.w.rl", 0, .a, "d,t,0(s)", 0x4200202f#64, 0xfe00707f#64, .opcode, insnDref ||| insn4Byte⟩,
  ⟨"amoxor.w.rl", 0, .a, "d,t,0(s)", 0x2200202f#64, 0xfe00707f#64, .opcode, insnDref ||| insn4Byte⟩,
  ⟨"amomax.w.rl", 0, .a, "d,t,0(s)", 0xa200202f#64, 0xfe00707f#64, .opcode, insnDref ||| insn4Byte⟩,
  ⟨"amomaxu.w.rl", 0, .a, "d,t,0(s)", 0xe200202f#64, 0xfe00707f#64, .opcode, insnDref ||| insn4Byte⟩,
  ⟨"amomin.w.rl", 0, .a, "d,t,0(s)", 0x8200202f#64, 0xfe00707f#64, .opcode, insnDref ||| insn4Byte⟩,
  ⟨"amominu.w.rl", 0, .a, "d,t,0(s)", 0xc200202f#64, 0xfe00707f#64, .opcode, insnDref ||| insn4Byte⟩,
  ⟨"lr.w.aqrl", 0, .a, "d,0(s)", 0x1600202f#64, 0xfff0707f#64, .opcode, insnDref ||| insn4Byte⟩,
  ⟨"sc.w.aqrl", 0, .a, "d,t,0(s)", 0x1e00202f#64, 0xfe00707f#64, .opcode, insnDref ||| insn4Byte⟩,
  ⟨"amoadd.w.aqrl", 0, .a, "d,t,0(s)", 0x600202f#64, 0xfe00707f#64, .opcode, insnDref ||| insn4Byte⟩,
  ⟨"amoswap.w.aqrl", 0, .a, "d,t,0(s)", 0xe00202f#64, 0xfe00707f#64, .opcode, insnDref ||| insn4Byte⟩,
  ⟨"amoand.w.aqrl", 0, .a, "d,t,0(s)", 0x6600202f#64, 0xfe00707f#64, .opcode, insnDref ||| insn4Byte⟩,
  ⟨"amoor.w.aqrl", 0, .a, "d,t,0(s)", 0x4600202f#64, 0xfe00707f#64, .opcode, insnDref ||| insn4Byte⟩,
  ⟨"amoxor.w.aqrl", 0, .a, "d,t,0(s)", 0x2600202f#64, 0xfe00707f#64, .opcode, insnDref ||| insn4Byte⟩,
  ⟨"amomax.w.aqrl", 0, .a, "d,t,0(s)", 0xa600202f#64, 0xfe00707f#64, .opcode, insnDref ||| insn4Byte⟩,
  ⟨"amomaxu.w.aqrl", 0, .a, "d,t,0(s)", 0xe600202f#64, 0xfe00707f#64, .opcode, insnDref ||| insn4Byte⟩,
  ⟨"amomin.w.aqrl", 0, .a, "d,t,0(s)", 0x8600202f#64, 0xfe00707f#64, .opcode, insnDref ||| insn4Byte⟩,
  ⟨"amominu.w.aqrl", 0, .a, "d,t,0(s)", 0xc600202f#64, 0xfe00707f#64, .opcode, insnDref ||| insn4Byte⟩,
  ⟨"lr.d", 64, .a, "d,0(s)", 0x1000302f#64, 0xfff0707f#64, .opcode, insnDref ||| insn8Byte⟩,
  ⟨"sc.d", 64, .a, "d,t,0(s)", 0x1800302f#64, 0xfe00707f#64, .opcode, insnDref ||| insn8Byte⟩,
  ⟨"amoadd.d", 64, .a, "d,t,0(s)", 0x302f#64, 0xfe00707f#64, .opcode, insnDref ||| insn8Byte⟩,
  ⟨"amoswap.d", 64, .a, "d,t,0(s)", 0x800302f#64, 0xfe00707f#64, .opcode, insnDref ||| insn8Byte⟩,
  ⟨"amoand.d", 64, .a, "d,t,0(s)", 0x6000302f#64, 0xfe00707f#64, .opcode, insnDref ||| insn8Byte⟩,
  ⟨"amoor.d", 64, .a, "d,t,0(s)", 0x4000302f#64, 0xfe00707f#64, .opcode, insnDref ||| insn8Byte⟩,
  ⟨"amoxor.d", 64, .a, "d,t,0(s)", 0x2000302f#64, 0xfe00707f#64, .opcode, insnDref ||| insn8Byte⟩,
  ⟨"amomax.d", 64, .a, "d,t,0(s)", 0xa000302f#64, 0xfe00707f#64, .opcode, insnDref ||| insn8Byte⟩,
  ⟨"amomaxu.d", 64, .a, "d,t,0(s)", 0xe000302f#64, 0xfe00707f#64, .opcode, insnDref ||| insn8Byte⟩,
  ⟨"amomin.d", 64, .a, "d,t,0(s)", 0x8000302f#64, 0xfe00707f#64, .opcode, insnDref ||| insn8Byte⟩,
  ⟨"amominu.d", 64, .a, "d,t,0(s)", 0xc000302f#64, 0xfe00707f#64, .opcode, insnDref ||| insn8Byte⟩,
  ⟨"lr.d.aq", 64, .a, "d,0(s)", 0x1400302f#64, 0xfff0707f#64, .opcode, insnDref ||| insn8Byte⟩,
  ⟨"sc.d.aq", 64, .a, "d,t,0(s)", 0x1c00302f#64, 0xfe00707f#64, .opcode, insnDref ||| insn8Byte⟩,
  ⟨"amoadd.d.aq", 64, .a, "d,t,0(s)", 0x400302f#64, 0xfe00707f#64, .opcode, insnDref ||| insn8Byte⟩,
  ⟨"amoswap.d.aq", 64, .a, "d,t,0(s)", 0xc00302f#64, 0xfe00707f#64, .opcode, insnDref ||| insn8Byte⟩,
  ⟨"amoand.d.aq", 64, .a, "d,t,0(s)", 0x6400302f#64, 0xfe00707f#64, .opcode, insnDref ||| insn8Byte⟩,
  ⟨"amoor.d.aq", 64, .a, "d,t,0(s)", 0x4400302f#64, 0xfe00707f#64, .opcode, insnDref ||| insn8Byte⟩,
  ⟨"amoxor.d.aq", 64, .a, "d,t,0(s)", 0x2400302f#64, 0xfe00707f#64, .opcode, insnDref ||| insn8Byte⟩,
  ⟨"amomax.d.aq", 64, .a, "d,t,0(s)", 0xa400302f#64, 0xfe00707f#64, .opcode, insnDref ||| insn8Byte⟩,
  ⟨"amomaxu.d.aq", 64, .a, "d,t,0(s)", 0xe400302f#64, 0xfe00707f#64, .opcode, insnDref ||| insn8Byte⟩,
  ⟨"amomin.d.aq", 64, .a, "d,t,0(s)", 0x8400302f#64, 0xfe00707f#64, .opcode, insnDref ||| insn8Byte⟩,
  ⟨"amominu.d.aq", 64, .a, "d,t,0(s)", 0xc400302f#64, 0xfe00707f#64, .opcode, insnDref ||| insn8Byte⟩,
  ⟨"lr.d.rl", 64, .a, "d,0(s)", 0x1200302f#64, 0xfff0707f#64, .opcode, insnDref ||| insn8Byte⟩,
  ⟨"sc.d.rl", 64, .a, "d,t,0(s)", 0x1a00302f#64, 0xfe00707f#64, .opcode, insnDref ||| insn8Byte⟩,
  ⟨"amoadd.d.rl", 64, .a, "d,t,0(s)", 0x200302f#64, 0xfe00707f#64, .opcode, insnDref ||| insn8Byte⟩,
  ⟨"amoswap.d.rl", 64, .a, "d,t,0(s)", 0xa00302f#64, 0xfe00707f#64, .opcode, insnDref ||| insn8Byte⟩,
  ⟨"amoand.d.rl", 64, .a, "d,t,0(s)", 0x6200302f#64, 0xfe00707f#64, .opcode, insnDref ||| insn8Byte⟩,
  ⟨"amoor.d.rl", 64, .a, "d,t,0(s)", 0x4200302f#64, 0xfe00707f#64, .opcode, insnDref ||| insn8Byte⟩,
  ⟨"amoxor.d.rl", 64, .a, "d,t,0(s)", 0x2200302f#64, 0xfe00707f#64, .opcode, insnDref ||| insn8Byte⟩,
  ⟨"amomax.d.rl", 64, .a, "d,t,0(s)", 0xa200302f#64, 0xfe00707f#64, .opcode, insnDref ||| insn8Byte⟩,
  ⟨"amomaxu.d.rl", 64, .a, "d,t,0(s)", 0xe200302f#64, 0xfe00707f#64, .opcode, insnDref ||| insn8Byte⟩,
  ⟨"amomin.d.rl", 64, .a, "d,t,0(s)", 0x8200302f#64, 0xfe00707f#64, .opcode, insnDref ||| insn8Byte⟩,
  ⟨"amominu.d.rl", 64, .a, "d,t,0(s)", 0xc200302f#64, 0xfe00707f#64, .opcode, insnDref ||| insn8Byte⟩,
  ⟨"lr.d.aqrl", 64, .a, "d,0(s)", 0x1600302f#64, 0xfff0707f#64, .opcode, insnDref ||| insn8Byte⟩,
  ⟨"sc.d.aqrl", 64, .a, "d,t,0(s)", 0x1e00302f#64, 0xfe00707f#64, .opcode, insnDref ||| insn8Byte⟩,
  ⟨"amoadd.d.aqrl", 64, .a, "d,t,0(s)", 0x600302f#64, 0xfe00707f#64, .opcode, insnDref ||| insn8Byte⟩,
  ⟨"amoswap.d.aqrl", 64, .a, "d,t,0(s)", 0xe00302f#64, 0xfe00707f#64, .opcode, insnDref ||| insn8Byte⟩,
  ⟨"amoand.d.aqrl", 64, .a, "d,t,0(s)", 0x6600302f#64, 0xfe00707f#64, .opcode, insnDref ||| insn8Byte⟩,
  ⟨"amoor.d.aqrl", 64, .a, "d,t,0(s)", 0x4600302f#64, 0xfe00707f#64, .opcode, insnDref ||| insn8Byte⟩,
  ⟨"amoxor.d.aqrl", 64, .a, "d,t,0(s)", 0x2600302f#64, 0xfe00707f#64, .opcode, insnDref ||| insn8Byte⟩,
  ⟨"amomax.d.aqrl", 64, .a, "d,t,0(s)", 0xa600302f#64, 0xfe00707f#64, .opcode, insnDref ||| insn8Byte⟩,
  ⟨"amomaxu.d.aqrl", 64, .a, "d,t,0(s)", 0xe600302f#64, 0xfe00707f#64, .opcode, insnDref ||| insn8Byte⟩,
  ⟨"amomin.d.aqrl", 64, .a, "d,t,0(s)", 0x8600302f#64, 0xfe00707f#64, .opcode, insnDref ||| insn8Byte⟩,
  ⟨"amominu.d.aqrl", 64, .a, "d,t,0(s)", 0xc600302f#64, 0xfe00707f#64, .opcode, insnDref ||| insn8Byte⟩]

/-- Multiply and divide instructions. -/
def mulInsns : List RiscvOpcodeRow := [
  ⟨"mul", 0, .zcbAndZmmul, "Cs,Cw,Ct", 0x9c41#64, 0xfc63#64, .opcode, insnAlias⟩,
  ⟨"mul", 0, .zmmul, "d,s,t", 0x2000033#64, 0xfe00707f#64, .opcode, 0⟩,
  ⟨"mulh", 0, .zmmul, "d,s,t", 0x2001033#64, 0xfe00707f#64, .opcode, 0⟩,
  ⟨"mulhu", 0, .zmmul, "d,s,t", 0x2003033#64, 0xfe00707f#64, .opcode, 0⟩,
  ⟨"mulhsu", 0, .zmmul, "d,s,t", 0x2002033#64, 0xfe00707f#64, .opcode, 0⟩,
  ⟨"div", 0, .m, "d,s,t", 0x2004033#64, 0xfe00707f#64, .opcode, 0⟩,
  ⟨"divu", 0, .m, "d,s,t", 0x2005033#64, 0xfe00707f#64, .opcode, 0⟩,
  ⟨"rem", 0, .m, "d,s,t", 0x2006033#64, 0xfe00707f#64, .opcode, 0⟩,
  ⟨"remu", 0, .m, "d,s,t", 0x2007033#64, 0xfe00707f#64, .opcode, 0⟩,
  ⟨"mulw", 64, .zmmul, "d,s,t", 0x200003b#64, 0xfe00707f#64, .opcode, 0⟩,
  ⟨"divw", 64, .m, "d,s,t", 0x200403b#64, 0xfe00707f#64, .opcode, 0⟩,
  ⟨"divuw", 64, .m, "d,s,t", 0x200503b#64, 0xfe00707f#64, .opcode, 0⟩,
  ⟨"remw", 64, .m, "d,s,t", 0x200603b#64, 0xfe00707f#64, .opcode, 0⟩,
  ⟨"remuw", 64, .m, "d,s,t", 0x200703b#64, 0xfe00707f#64, .opcode, 0⟩]

/-- Half-precision floating-point instructions. -/
def halfInsns : List RiscvOpcodeRow := [
  ⟨"flh", 0, .zfhmin, "D,o(s)", 0x1007#64, 0x707f#64, .opcode, insnDref ||| insn2Byte⟩,
  ⟨"flh", 0, .zfhmin, "D,A,s", 0#64, 0x6#64, .rs1Nonzero, insnMacro⟩,
  ⟨"fsh", 0, .zfhmin, "T,q(s)", 0x1027#64, 0x707f#64, .opcode, insnDref ||| insn2Byte⟩,
  ⟨"fsh", 0, .zfhmin, "T,A,s", 0#64, 0x7#64, .rs1Nonzero, insnMacro⟩,
  ⟨"fmv.x.h", 0, .zfhmin, "d,S", 0xe4000053#64, 0xfff0707f#64, .opcode, 0⟩,
  ⟨"fmv.h.x", 0, .zfhmin, "D,s", 0xf4000053#64, 0xfff0707f#64, .opcode, 0⟩,
  ⟨"fmv.h", 0, .zfhInx, "D,U", 0x24000053#64, 0xfe00707f#64, .rs1EqRs2, insnAlias⟩,
  ⟨"fneg.h", 0, .zfhInx, "D,U", 0x24001053#64, 0xfe00707f#64, .rs1EqRs2, insnAlias⟩,
  ⟨"fabs.h", 0, .zfhInx, "D,U", 0x24002053#64, 0xfe00707f#64, .rs1EqRs2, insnAlias⟩,
  ⟨"fsgnj.h", 0, .zfhInx, "D,S,T", 0x24000053#64, 0xfe00707f#64, .opcode, 0⟩,
  ⟨"fsgnjn.h", 0, .zfhInx, "D,S,T", 0x24001053#64, 0xfe00707f#64, .opcode, 0⟩,
  ⟨"fsgnjx.h", 0, .zfhInx, "D,S,T", 0x24002053#64, 0xfe00707f#64, .opcode, 0⟩,
  ⟨"fadd.h", 0, .zfhInx, "D,S,T", 0x4007053#64, 0xfe00707f#64, .opcode, 0⟩,
  ⟨"fadd.h", 0, .zfhInx, "D,S,T,m", 0x4000053#64, 0xfe00007f#64, .opcode, 0⟩,
  ⟨"fsub.h", 0, .zfhInx, "D,S,T", 0xc007053#64, 0xfe00707f#64, .opcode, 0⟩,
  ⟨"fsub.h", 0, .zfhInx, "D,S,T,m", 0xc000053#64, 0xfe00007f#64, .opcode, 0⟩,
  ⟨"fmul.h", 0, .zfhInx, "D,S,T", 0x14007053#64, 0xfe00707f#64, .opcode, 0⟩,
  ⟨"fmul.h", 0, .zfhInx, "D,S,T,m", 0x14000053#64, 0xfe00007f#64, .opcode, 0⟩,
  ⟨"fdiv.h", 0, .zfhInx, "D,S,T", 0x1c007053#64, 0xfe00707f#64, .opcode, 0⟩,
  ⟨"fdiv.h", 0, .zfhInx, "D,S,T,m", 0x1c000053#64, 0xfe00007f#64, .opcode, 0⟩,
  ⟨"fsqrt.h", 0, .zfhInx, "D,S", 0x5c007053#64, 0xfff0707f#64, .opcode, 0⟩,
  ⟨"fsqrt.h", 0, .zfhInx, "D,S,m", 0x5c000053#64, 0xfff0007f#64, .opcode, 0⟩,
  ⟨"fmin.h", 0, .zfhInx, "D,S,T", 0x2c000053#64, 0xfe00707f#64, .opcode, 0⟩,
  ⟨"fmax.h", 0, .zfhInx, "D,S,T", 0x2c001053#64, 0xfe00707f#64, .opcode, 0⟩,
  ⟨"fmadd.h", 0, .zfhInx, "D,S,T,R", 0x4007043#64, 0x600707f#64, .opcode, 0⟩,
  ⟨"fmadd.h", 0, .zfhInx, "D,S,T,R,m", 0x4000043#64, 0x600007f#64, .opcode, 0⟩,
  ⟨"fnmadd.h", 0, .zfhInx, "D,S,T,R", 0x400704f#64, 0x600707f#64, .opcode, 0⟩,
  ⟨"fnmadd.h", 0, .zfhInx, "D,S,T,R,m", 0x400004f#64, 0x600007f#64, .opcode, 0⟩,
  ⟨"fmsub.h", 0, .zfhInx, "D,S,T,R", 0x4007047#64, 0x600707f#64, .opcode, 0⟩,
  ⟨"fmsub.h", 0, .zfhInx, "D,S,T,R,m", 0x4000047#64, 0x600007f#64, .opcode, 0⟩,
  ⟨"fnmsub.h", 0, .zfhInx, "D,S,T,R", 0x400704b#64, 0x600707f#64, .opcode, 0⟩,
  ⟨"fnmsub.h", 0, .zfhInx, "D,S,T,R,m", 0x400004b#64, 0x600007f#64, .opcode, 0⟩,
  ⟨"fcvt.w.h", 0, .zfhInx, "d,S", 0xc4007053#64, 0xfff0707f#64, .opcode, 0⟩,
  ⟨"fcvt.w.h", 0, .zfhInx, "d,S,m", 0xc4000053#64, 0xfff0007f#64, .opcode, 0⟩,
  ⟨"fcvt.wu.h", 0, .zfhInx, "d,S", 0xc4107053#64, 0xfff0707f#64, .opcode, 0⟩,
  ⟨"fcvt.wu.h", 0, .zfhInx, "d,S,m", 0xc4100053#64, 0xfff0007f#64, .opcode, 0⟩,
  ⟨"fcvt.h.w", 0, .zfhInx, "D,s", 0xd4007053#64, 0xfff0707f#64, .opcode, 0⟩,
  ⟨"fcvt.h.w", 0, .zfhInx, "D,s,m", 0xd4000053#64, 0xfff0007f#64, .opcode, 0⟩,
  ⟨"fcvt.h.wu", 0, .zfhInx, "D,s", 0xd4107053#64, 0xfff0707f#64, .opcode, 0⟩,
  ⟨"fcvt.h.wu", 0, .zfhInx, "D,s,m", 0xd4100053#64, 0xfff0007f#64, .opcode, 0⟩,
  ⟨"fcvt.s.h", 0, .zfhminInx, "D,S", 0x40200053#64, 0xfff0707f#64, .opcode, 0⟩,
  ⟨"fcvt.d.h", 0, .zfhminAndDInx, "D,S", 0x42200053#64, 0xfff0707f#64, .opcode, 0⟩,
  ⟨"fcvt.q.h", 0, .zfhminAndQInx, "D,S", 0x46200053#64, 0xfff0707f#64, .opcode, 0⟩,
  ⟨"fcvt.h.s", 0, .zfhminInx, "D,S", 0x44007053#64, 0xfff0707f#64, .opcode, 0⟩,
  ⟨"fcvt.h.s", 0, .zfhminInx, "D,S,m", 0x44000053#64, 0xfff0007f#64, .opcode, 0⟩,
  ⟨"fcvt.h.d", 0, .zfhminAndDInx, "D,S", 0x44107053#64, 0xfff0707f#64, .opcode, 0⟩,
  ⟨"fcvt.h.d", 0, .zfhminAndDInx, "D,S,m", 0x44100053#64, 0xfff0007f#64, .opcode, 0⟩,
  ⟨"fcvt.h.q", 0, .zfhminAndQInx, "D,S", 0x44307053#64, 0xfff0707f#64, .opcode, 0⟩,
  ⟨"fcvt.h.q", 0, .zfhminAndQInx, "D,S,m", 0x44300053#64, 0xfff0007f#64, .opcode, 0⟩,
  ⟨"fclass.h", 0, .zfhInx, "d,S", 0xe4001053#64, 0xfff0707f#64, .opcode, 0⟩,
  ⟨"feq.h", 0, .zfhInx, "d,S,T", 0xa4002053#64, 0xfe00707f#64, .opcode, 0⟩,
  ⟨"flt.h", 0, .zfhInx, "d,S,T", 0xa4001053#64, 0xfe00707f#64, .opcode, 0⟩,
  ⟨"fle.h", 0, .zfhInx, "d,S,T", 0xa4000053#64, 0xfe00707f#64, .opcode, 0⟩,
  ⟨"fgt.h", 0, .zfhInx, "d,T,S", 0xa4001053#64, 0xfe00707f#64, .opcode, 0⟩,
  ⟨"fge.h", 0, .zfhInx, "d,T,S", 0xa4000053#64, 0xfe00707f#64, .opcode, 0⟩,
  ⟨"fcvt.l.h", 64, .zfhInx, "d,S", 0xc4207053#64, 0xfff0707f#64, .opcode, 0⟩,
  ⟨"fcvt.l.h", 64, .zfhInx, "d,S,m", 0xc4200053#64, 0xfff0007f#64, .opcode, 0⟩,
  ⟨"fcvt.lu.h", 64, .zfhInx, "d,S", 0xc4307053#64, 0xfff0707f#64, .opcode, 0⟩,
  ⟨"fcvt.lu.h", 64, .zfhInx, "d,S,m", 0xc4300053#64, 0xfff0007f#64, .opcode, 0⟩,
  ⟨"fcvt.h.l", 64, .zfhInx, "D,s", 0xd4207053#64, 0xfff0707f#64, .opcode, 0⟩,
  ⟨"fcvt.h.l", 64, .zfhInx, "D,s,m", 0xd4200053#64, 0xfff0007f#64, .opcode, 0⟩,
  ⟨"fcvt.h.lu", 64, .zfhInx, "D,s", 0xd4307053#64, 0xfff0707f#64, .opcode, 0⟩,
  ⟨"fcvt.h.lu", 64, .zfhInx, "D,s,m", 0xd4300053#64, 0xfff0007f#64, .opcode, 0⟩]

/-- Single-precision floating-point instructions. -/
def singleInsns : List RiscvOpcodeRow := [
  ⟨"frcsr", 0, .fInx, "d", 0x302073#64, 0xfffff07f#64, .opcode, insnAlias⟩,
  ⟨"frsr", 0, .fInx, "d", 0x302073#64, 0xfffff07f#64, .opcode, insnAlias⟩,
  ⟨"fscsr", 0, .fInx, "s", 0x301073#64, 0xfff07fff#64, .opcode, insnAlias⟩,
  ⟨"fscsr", 0, .fInx, "d,s", 0x301073#64, 0xfff0707f#64, .opcode, insnAlias⟩,
  ⟨"fssr", 0, .fInx, "s", 0x301073#64, 0xfff07fff#64, .opcode, insnAlias⟩,
  ⟨"fssr", 0, .fInx, "d,s", 0x301073#64, 0xfff0707f#64, .opcode, insnAlias⟩,
  ⟨"frrm", 0, .fInx, "d", 0x202073#64, 0xfffff07f#64, .opcode, insnAlias⟩,
  ⟨"fsrm", 0, .fInx, "s", 0x201073#64, 0xfff07fff#64, .opcode, insnAlias⟩,
  ⟨"fsrm", 0, .fInx, "d,s", 0x201073#64, 0xfff0707f#64, .opcode, insnAlias⟩,
  ⟨"fsrmi", 0, .fInx, "d,Z", 0x205073#64, 0xfff0707f#64, .opcode, insnAlias⟩,
  ⟨"fsrmi", 0, .fInx, "Z", 0x205073#64, 0xfff07fff#64, .opcode, insnAlias⟩,
  ⟨"frflags", 0, .fInx, "d", 0x102073#64, 0xfffff07f#64, .opcode, insnAlias⟩,
  ⟨"fsflags", 0, .fInx, "s", 0x101073#64, 0xfff07fff#64, .opcode, insnAlias⟩,
  ⟨"fsflags", 0, .fInx, "d,s", 0x101073#64, 0xfff0707f#64, .opcode, insnAlias⟩,
  ⟨"fsflagsi", 0, .fInx, "d,Z", 0x105073#64, 0xfff0707f#64, .opcode, insnAlias⟩,
  ⟨"fsflagsi", 0, .fInx, "Z", 0x105073#64, 0xfff07fff#64, .opcode, insnAlias⟩,
  ⟨"flw", 32, .fAndC, "D,Cm(Cc)", 0x6002#64, 0xe003#64, .opcode, insnAlias ||| insnDref ||| insn4Byte⟩,
  ⟨"flw", 32, .fAndC, "CD,Ck(Cs)", 0x6000#64, 0xe003#64, .opcode, insnAlias ||| insnDref ||| insn4Byte⟩,
  ⟨"flw", 0, .f, "D,o(s)", 0x2007#64, 0x707f#64, .opcode, insnDref ||| insn4Byte⟩,
  ⟨"flw", 0, .f, "D,A,s", 0#64, 0x6#64, .rs1Nonzero, insnMacro⟩,
  ⟨"fsw", 32, .fAndC, "CT,CM(Cc)", 0xe002#64, 0xe003#64, .opcode, insnAlias ||| insnDref ||| insn4Byte⟩,
  ⟨"fsw", 32, .fAndC, "CD,Ck(Cs)", 0xe000#64, 0xe003#64, .opcode, insnAlias ||| insnDref ||| insn4Byte⟩,
  ⟨"fsw", 0, .f, "T,q(s)", 0x2027#64, 0x707f#64, .opcode, insnDref ||| insn4Byte⟩,
  ⟨"fsw", 0, .f, "T,A,s", 0#64, 0x7#64, .rs1Nonzero, insnMacro⟩,
  ⟨"fmv.x.w", 0, .f, "d,S", 0xe0000053#64, 0xfff0707f#64, .opcode, 0⟩,
  ⟨"fmv.w.x", 0, .f, "D,s", 0xf0000053#64, 0xfff0707f#64, .opcode, 0⟩,
  ⟨"fmv.x.s", 0, .f, "d,S", 0xe0000053#64, 0xfff0707f#64, .opcode, 0⟩,
  ⟨"fmv.s.x", 0, .f, "D,s", 0xf0000053#64, 0xfff0707f#64, .opcode, 0⟩,
  ⟨"fmv.s", 0, .fInx, "D,U", 0x20000053#64, 0xfe00707f#64, .rs1EqRs2, insnAlias⟩,
  ⟨"fneg.s", 0, .fInx, "D,U", 0x20001053#64, 0xfe00707f#64, .rs1EqRs2, insnAlias⟩,
  ⟨"fabs.s", 0, .fInx, "D,U", 0x20002053#64, 0xfe00707f#64, .rs1EqRs2, insnAlias⟩,
  ⟨"fsgnj.s", 0, .fInx, "D,S,T", 0x20000053#64, 0xfe00707f#64, .opcode, 0⟩,
  ⟨"fsgnjn.s", 0, .fInx, "D,S,T", 0x20001053#64, 0xfe00707f#64, .opcode, 0⟩,
  ⟨"fsgnjx.s", 0, .fInx, "D,S,T", 0x20002053#64, 0xfe00707f#64, .opcode, 0⟩,
  ⟨"fadd.s", 0, .fInx, "D,S,T", 0x7053#64, 0xfe00707f#64, .opcode, 0⟩,
  ⟨"fadd.s", 0, .fInx, "D,S,T,m", 0x53#64, 0xfe00007f#64, .opcode, 0⟩,
  ⟨"fsub.s", 0, .fInx, "D,S,T", 0x8007053#64, 0xfe00707f#64, .opcode, 0⟩,
  ⟨"fsub.s", 0, .fInx, "D,S,T,m", 0x8000053#64, 0xfe00007f#64, .opcode, 0⟩,
  ⟨"fmul.s", 0, .fInx, "D,S,T", 0x10007053#64, 0xfe00707f#64, .opcode, 0⟩,
  ⟨"fmul.s", 0, .fInx, "D,S,T,m", 0x10000053#64, 0xfe00007f#64, .opcode, 0⟩,
  ⟨"fdiv.s", 0, .fInx, "D,S,T", 0x18007053#64, 0xfe00707f#64, .opcode, 0⟩,
  ⟨"fdiv.s", 0, .fInx, "D,S,T,m", 0x18000053#64, 0xfe00007f#64, .opcode, 0⟩,
  ⟨"fsqrt.s", 0, .fInx, "D,S", 0x58007053#64, 0xfff0707f#64, .opcode, 0⟩,
  ⟨"fsqrt.s", 0, .fInx, "D,S,m", 0x58000053#64, 0xfff0007f#64, .opcode, 0⟩,
  ⟨"fmin.s", 0, .fInx, "D,S,T", 0x28000053#64, 0xfe00707f#64, .opcode, 0⟩,
  ⟨"fmax.s", 0, .fInx, "D,S,T", 0x28001053#64, 0xfe00707f#64, .opcode, 0⟩,
  ⟨"fmadd.s", 0, .fInx, "D,S,T,R", 0x7043#64, 0x600707f#64, .opcode, 0⟩,
  ⟨"fmadd.s", 0, .fInx, "D,S,T,R,m", 0x43#64, 0x600007f#64, .opcode, 0⟩,
  ⟨"fnmadd.s", 0, .fInx, "D,S,T,R", 0x704f#64, 0x600707f#64, .opcode, 0⟩,
  ⟨"fnmadd.s", 0, .fInx, "D,S,T,R,m", 0x4f#64, 0x600007f#64, .opcode, 0⟩,
  ⟨"fmsub.s", 0, .fInx, "D,S,T,R", 0x7047#64, 0x600707f#64, .opcode, 0⟩,
  ⟨"fmsub.s", 0, .fInx, "D,S,T,R,m", 0x47#64, 0x600007f#64, .opcode, 0⟩,
  ⟨"fnmsub.s", 0, .fInx, "D,S,T,R", 0x704b#64, 0x600707f#64, .opcode, 0⟩,
  ⟨"fnmsub.s", 0, .fInx, "D,S,T,R,m", 0x4b#64, 0x600007f#64, .opcode, 0⟩,
  ⟨"fcvt.w.s", 0, .fInx, "d,S", 0xc0007053#64, 0xfff0707f#64, .opcode, 0⟩,
  ⟨"fcvt.w.s", 0, .fInx, "d,S,m", 0xc0000053#64, 0xfff0007f#64, .opcode, 0⟩,
  ⟨"fcvt.wu.s", 0, .fInx, "d,S", 0xc0107053#64, 0xfff0707f#64, .opcode, 0⟩,
  ⟨"fcvt.wu.s", 0, .fInx, "d,S,m", 0xc0100053#64, 0xfff0007f#64, .opcode, 0⟩,
  ⟨"fcvt.s.w", 0, .fInx, "D,s", 0xd0007053#64, 0xfff0707f#64, .opcode, 0⟩,
  ⟨"fcvt.s.w", 0, .fInx, "D,s,m", 0xd0000053#64, 0xfff0007f#64, .opcode, 0⟩,
  ⟨"fcvt.s.wu", 0, .fInx, "D,s", 0xd0107053#64, 0xfff0707f#64, .opcode, 0⟩,
  ⟨"fcvt.s.wu", 0, .fInx, "D,s,m", 0xd0100053#64, 0xfff0007f#64, .opcode, 0⟩,
  ⟨"fclass.s", 0, .fInx, "d,S", 0xe0001053#64, 0xfff0707f#64, .opcode, 0⟩,
  ⟨"feq.s", 0, .fInx, "d,S,T", 0xa0002053#64, 0xfe00707f#64, .opcode, 0⟩,
  ⟨"flt.s", 0, .fInx, "d,S,T", 0xa0001053#64, 0xfe00707f#64, .opcode, 0⟩,
  ⟨"fle.s", 0, .fInx, "d,S,T", 0xa0000053#64, 0xfe00707f#64, .opcode, 0⟩,
  ⟨"fgt.s", 0, .fInx, "d,T,S", 0xa0001053#64, 0xfe00707f#64, .opcode, 0⟩,
  ⟨"fge.s", 0, .fInx, "d,T,S", 0xa0000053#64, 0xfe00707f#64, .opcode, 0⟩,
  ⟨"fcvt.l.s", 64, .fInx, "d,S", 0xc0207053#64, 0xfff0707f#64, .opcode, 0⟩,
  ⟨"fcvt.l.s", 64, .fInx, "d,S,m", 0xc0200053#64, 0xfff0007f#64, .opcode, 0⟩,
  ⟨"fcvt.lu.s", 64, .fInx, "d,S", 0xc0307053#64, 0xfff0707f#64, .opcode, 0⟩,
  ⟨"fcvt.lu.s", 64, .fInx, "d,S,m", 0xc0300053#64, 0xfff0007f#64, .opcode, 0⟩,
  ⟨"fcvt.s.l", 64, .fInx, "D,s", 0xd0207053#64, 0xfff0707f#64, .opcode, 0⟩,
  ⟨"fcvt.s.l", 64, .fInx, "D,s,m", 0xd0200053#64, 0xfff0007f#64, .opcode, 0⟩,
  ⟨"fcvt.s.lu", 64, .fInx, "D,s", 0xd0307053#64, 0xfff0707f#64, .opcode, 0⟩,
  ⟨"fcvt.s.lu", 64, .fInx, "D,s,m", 0xd0300053#64, 0xfff0007f#64, .opcode, 0⟩]

/-- Double-precision floating-point instructions. -/
def doubleInsns : List RiscvOpcodeRow := [
  ⟨"fld", 0, .dAndC, "D,Cn(Cc)", 0x2002#64, 0xe003#64, .opcode, insnAlias ||| insnDref ||| insn8Byte⟩,
  ⟨"fld", 0, .dAndC, "CD,Cl(Cs)", 0x2000#64, 0xe003#64, .opcode, insnAlias ||| insnDref ||| insn8Byte⟩,
  ⟨"fld", 0, .d, "D,o(s)", 0x3007#64, 0x707f#64, .opcode, insnDref ||| insn8Byte⟩,
  ⟨"fld", 0, .d, "D,A,s", 0#64, 0x6#64, .rs1Nonzero, insnMacro⟩,
  ⟨"fsd", 0, .dAndC, "CT,CN(Cc)", 0xa002#64, 0xe003#64, .opcode, insnAlias ||| insnDref ||| insn8Byte⟩,
  ⟨"fsd", 0, .dAndC, "CD,Cl(Cs)", 0xa000#64, 0xe003#64, .opcode, insnAlias ||| insnDref ||| insn8Byte⟩,
  ⟨"fsd", 0, .d, "T,q(s)", 0x3027#64, 0x707f#64, .opcode, insnDref ||| insn8Byte⟩,
  ⟨"fsd", 0, .d, "T,A,s", 0#64, 0x7#64, .rs1Nonzero, insnMacro⟩,
  ⟨"fmv.d", 0, .dInx, "D,U", 0x22000053#64, 0xfe00707f#64, .rs1EqRs2, insnAlias⟩,
  ⟨"fneg.d", 0, .dInx, "D,U", 0x22001053#64, 0xfe00707f#64, .rs1EqRs2, insnAlias⟩,
  ⟨"fabs.d", 0, .dInx, "D,U", 0x22002053#64, 0xfe00707f#64, .rs1EqRs2, insnAlias⟩,
  ⟨"fsgnj.d", 0, .dInx, "D,S,T", 0x22000053#64, 0xfe00707f#64, .opcode, 0⟩,
  ⟨"fsgnjn.d", 0, .dInx, "D,S,T", 0x22001053#64, 0xfe00707f#64, .opcode, 0⟩,
  ⟨"fsgnjx.d", 0, .dInx, "D,S,T", 0x22002053#64, 0xfe00707f#64, .opcode, 0⟩,
  ⟨"fadd.d", 0, .dInx, "D,S,T", 0x2007053#64, 0xfe00707f#64, .opcode, 0⟩,
  ⟨"fadd.d", 0, .dInx, "D,S,T,m", 0x2000053#64, 0xfe00007f#64, .opcode, 0⟩,
  ⟨"fsub.d", 0, .dInx, "D,S,T", 0xa007053#64, 0xfe00707f#64, .opcode, 0⟩,
  ⟨"fsub.d", 0, .dInx, "D,S,T,m", 0xa000053#64, 0xfe00007f#64, .opcode, 0⟩,
  ⟨"fmul.d", 0, .dInx, "D,S,T", 0x12007053#64, 0xfe00707f#64, .opcode, 0⟩,
  ⟨"fmul.d", 0, .dInx, "D,S,T,m", 0x12000053#64, 0xfe00007f#64, .opcode, 0⟩,
  ⟨"fdiv.d", 0, .dInx, "D,S,T", 0x1a007053#64, 0xfe00707f#64, .opcode, 0⟩,
  ⟨"fdiv.d", 0, .dInx, "D,S,T,m", 0x1a000053#64, 0xfe00007f#64, .opcode, 0⟩,
  ⟨"fsqrt.d", 0, .dInx, "D,S", 0x5a007053#64, 0xfff0707f#64, .opcode, 0⟩,
  ⟨"fsqrt.d", 0, .dInx, "D,S,m", 0x5a000053#64, 0xfff0007f#64, .opcode, 0⟩,
  ⟨"fmin.d", 0, .dInx, "D,S,T", 0x2a000053#64, 0xfe00707f#64, .opcode, 0⟩,
  ⟨"fmax.d", 0, .dInx, "D,S,T", 0x2a001053#64, 0xfe00707f#64, .opcode, 0⟩,
  ⟨"fmadd.d", 0, .dInx, "D,S,T,R", 0x2007043#64, 0x600707f#64, .opcode, 0⟩,
  ⟨"fmadd.d", 0, .dInx, "D,S,T,R,m", 0x2000043#64, 0x600007f#64, .opcode, 0⟩,
  ⟨"fnmadd.d", 0, .dInx, "D,S,T,R", 0x200704f#64, 0x600707f#64, .opcode, 0⟩,
  ⟨"fnmadd.d", 0, .dInx, "D,S,T,R,m", 0x200004f#64, 0x600007f#64, .opcode, 0⟩,
  ⟨"fmsub.d", 0, .dInx, "D,S,T,R", 0x2007047#64, 0x600707f#64, .opcode, 0⟩,
  ⟨"fmsub.d", 0, .dInx, "D,S,T,R,m", 0x2000047#64, 0x600007f#64, .opcode, 0⟩,
  ⟨"fnmsub.d", 0, .dInx, "D,S,T,R", 0x200704b#64, 0x600707f#64, .opcode, 0⟩,
  ⟨"fnmsub.d", 0, .dInx, "D,S,T,R,m", 0x200004b#64, 0x600007f#64, .opcode, 0⟩,
  ⟨"fcvt.w.d", 0, .dInx, "d,S", 0xc2007053#64, 0xfff0707f#64, .opcode, 0⟩,
  ⟨"fcvt.w.d", 0, .dInx, "d,S,m", 0xc2000053#64, 0xfff0007f#64, .opcode, 0⟩,
  ⟨"fcvt.wu.d", 0, .dInx, "d,S", 0xc2107053#64, 0xfff0707f#64, .opcode, 0⟩,
  ⟨"fcvt.wu.d", 0, .dInx, "d,S,m", 0xc2100053#64, 0xfff0007f#64, .opcode, 0⟩,
  ⟨"fcvt.d.w", 0, .dInx, "D,s", 0xd2000053#64, 0xfff0707f#64, .opcode, 0⟩,
  ⟨"fcvt.d.wu", 0, .dInx, "D,s", 0xd2100053#64, 0xfff0707f#64, .opcode, 0⟩,
  ⟨"fcvt.d.s", 0, .dInx, "D,S", 0x42000053#64, 0xfff0707f#64, .opcode, 0⟩,
  ⟨"fcvt.s.d", 0, .dInx, "D,S", 0x40107053#64, 0xfff0707f#64, .opcode, 0⟩,
  ⟨"fcvt.s.d", 0, .dInx, "D,S,m", 0x40100053#64, 0xfff0007f#64, .opcode, 0⟩,
  ⟨"fclass.d", 0, .dInx, "d,S", 0xe2001053#64, 0xfff0707f#64, .opcode, 0⟩,
  ⟨"feq.d", 0, .dInx, "d,S,T", 0xa2002053#64, 0xfe00707f#64, .opcode, 0⟩,
  ⟨"flt.d", 0, .dInx, "d,S,T", 0xa2001053#64, 0xfe00707f#64, .opcode, 0⟩,
  ⟨"fle.d", 0, .dInx, "d,S,T", 0xa2000053#64, 0xfe00707f#64, .opcode, 0⟩,
  ⟨"fgt.d", 0, .dInx, "d,T,S", 0xa2001053#64, 0xfe00707f#64, .opcode, 0⟩,
  ⟨"fge.d", 0, .dInx, "d,T,S", 0xa2000053#64, 0xfe00707f#64, .opcode, 0⟩,
  ⟨"fmv.x.d", 64, .d, "d,S", 0xe2000053#64, 0xfff0707f#64, .opcode, 0⟩,
  ⟨"fmv.d.x", 64, .d, "D,s", 0xf2000053#64, 0xfff0707f#64, .opcode, 0⟩,
  ⟨"fcvt.l.d", 64, .dInx, "d,S", 0xc2207053#64, 0xfff0707f#64, .opcode, 0⟩,
  ⟨"fcvt.l.d", 64, .dInx, "d,S,m", 0xc2200053#64, 0xfff0007f#64, .opcode, 0⟩,
  ⟨"fcvt.lu.d", 64, .dInx, "d,S", 0xc2307053#64, 0xfff0707f#64, .opcode, 0⟩,
  ⟨"fcvt.lu.d", 64, .dInx, "d,S,m", 0xc2300053#64, 0xfff0007f#64, .opcode, 0⟩,
  ⟨"fcvt.d.l", 64, .dInx, "D,s", 0xd2207053#64, 0xfff0707f#64, .opcode, 0⟩,
  ⟨"fcvt.d.l", 64, .dInx, "D,s,m", 0xd2200053#64, 0xfff0007f#64, .opcode, 0⟩,
  ⟨"fcvt.d.lu", 64, .dInx, "D,s", 0xd2307053#64, 0xfff0707f#64, .opcode, 0⟩,
  ⟨"fcvt.d.lu", 64, .dInx, "D,s,m", 0xd2300053#64, 0xfff0007f#64, .opcode, 0⟩]

/-- Quad-precision floating-point instructions. -/
def quadInsns : List RiscvOpcodeRow := [
  ⟨"flq", 0, .q, "D,o(s)", 0x4007#64, 0x707f#64, .opcode, insnDref ||| insn16Byte⟩,
  ⟨"flq", 0, .q, "D,A,s", 0#64, 0x6#64, .rs1Nonzero, insnMacro⟩,
  ⟨"fsq", 0, .q, "T,q(s)", 0x4027#64, 0x707f#64, .opcode, insnDref ||| insn16Byte⟩,
  ⟨"fsq", 0, .q, "T,A,s", 0#64, 0x7#64, .rs1Nonzero, insnMacro⟩,
  ⟨"fmv.q", 0, .qInx, "D,U", 0x26000053#64, 0xfe00707f#64, .rs1EqRs2, insnAlias⟩,
  ⟨"fneg.q", 0, .qInx, "D,U", 0x26001053#64, 0xfe00707f#64, .rs1EqRs2, insnAlias⟩,
  ⟨"fabs.q", 0, .qInx, "D,U", 0x26002053#64, 0xfe00707f#64, .rs1EqRs2, insnAlias⟩,
  ⟨"fsgnj.q", 0, .qInx, "D,S,T", 0x26000053#64, 0xfe00707f#64, .opcode, 0⟩,
  ⟨"fsgnjn.q", 0, .qInx, "D,S,T", 0x26001053#64, 0xfe00707f#64, .opcode, 0⟩,
  ⟨"fsgnjx.q", 0, .qInx, "D,S,T", 0x26002053#64, 0xfe00707f#64, .opcode, 0⟩,
  ⟨"fadd.q", 0, .qInx, "D,S,T", 0x6007053#64, 0xfe00707f#64, .opcode, 0⟩,
  ⟨"fadd.q", 0, .qInx, "D,S,T,m", 0x6000053#64, 0xfe00007f#64, .opcode, 0⟩,
  ⟨"fsub.q", 0, .qInx, "D,S,T", 0xe007053#64, 0xfe00707f#64, .opcode, 0⟩,
  ⟨"fsub.q", 0, .qInx, "D,S,T,m", 0xe000053#64, 0xfe00007f#64, .opcode, 0⟩,
  ⟨"fmul.q", 0, .qInx, "D,S,T", 0x16007053#64, 0xfe00707f#64, .opcode, 0⟩,
  ⟨"fmul.q", 0, .qInx, "D,S,T,m", 0x16000053#64, 0xfe00007f#64, .opcode, 0⟩,
  ⟨"fdiv.q", 0, .qInx, "D,S,T", 0x1e007053#64, 0xfe00707f#64, .opcode, 0⟩,
  ⟨"fdiv.q", 0, .qInx, "D,S,T,m", 0x1e000053#64, 0xfe00007f#64, .opcode, 0⟩,
  ⟨"fsqrt.q", 0, .qInx, "D,S", 0x5e007053#64, 0xfff0707f#64, .opcode, 0⟩,
  ⟨"fsqrt.q", 0, .qInx, "D,S,m", 0x5e000053#64, 0xfff0007f#64, .opcode, 0⟩,
  ⟨"fmin.q", 0, .qInx, "D,S,T", 0x2e000053#64, 0xfe00707f#64, .opcode, 0⟩,
  ⟨"fmax.q", 0, .qInx, "D,S,T", 0x2e001053#64, 0xfe00707f#64, .opcode, 0⟩,
  ⟨"fmadd.q", 0, .qInx, "D,S,T,R", 0x6007043#64, 0x600707f#64, .opcode, 0⟩,
  ⟨"fmadd.q", 0, .qInx, "D,S,T,R,m", 0x6000043#64, 0x600007f#64, .opcode, 0⟩,
  ⟨"fnmadd.q", 0, .qInx, "D,S,T,R", 0x600704f#64, 0x600707f#64, .opcode, 0⟩,
  ⟨"fnmadd.q", 0, .qInx, "D,S,T,R,m", 0x600004f#64, 0x600007f#64, .opcode, 0⟩,
  ⟨"fmsub.q", 0, .qInx, "D,S,T,R", 0x6007047#64, 0x600707f#64, .opcode, 0⟩,
  ⟨"fmsub.q", 0, .qInx, "D,S,T,R,m", 0x6000047#64, 0x600007f#64, .opcode, 0⟩,
  ⟨"fnmsub.q", 0, .qInx, "D,S,T,R", 0x600704b#64, 0x600707f#64, .opcode, 0⟩,
  ⟨"fnmsub.q", 0, .qInx, "D,S,T,R,m", 0x600004b#64, 0x600007f#64, .opcode, 0⟩,
  ⟨"fcvt.w.q", 0, .qInx, "d,S", 0xc6007053#64, 0xfff0707f#64, .opcode, 0⟩,
  ⟨"fcvt.w.q", 0, .qInx, "d,S,m", 0xc6000053#64, 0xfff0007f#64, .opcode, 0⟩,
  ⟨"fcvt.wu.q", 0, .qInx, "d,S", 0xc6107053#64, 0xfff0707f#64, .opcode, 0⟩,
  ⟨"fcvt.wu.q", 0, .qInx, "d,S,m", 0xc6100053#64, 0xfff0007f#64, .opcode, 0⟩,
  ⟨"fcvt.q.w", 0, .qInx, "D,s", 0xd6000053#64, 0xfff0707f#64, .opcode, 0⟩,
  ⟨"fcvt.q.wu", 0, .qInx, "D,s", 0xd6100053#64, 0xfff0707f#64, .opcode, 0⟩,
  ⟨"fcvt.q.s", 0, .qInx, "D,S", 0x46000053#64, 0xfff0707f#64, .opcode, 0⟩,
  ⟨"fcvt.q.d", 0, .qInx, "D,S", 0x46100053#64, 0xfff0707f#64, .opcode, 0⟩,
  ⟨"fcvt.s.q", 0, .qInx, "D,S", 0x40307053#64, 0xfff0707f#64, .opcode, 0⟩,
  ⟨"fcvt.s.q", 0, .qInx, "D,S,m", 0x40300053#64, 0xfff0007f#64, .opcode, 0⟩,
  ⟨"fcvt.d.q", 0, .qInx, "D,S", 0x42307053#64, 0xfff0707f#64, .opcode, 0⟩,
  ⟨"fcvt.d.q", 0, .qInx, "D,S,m", 0x42300053#64, 0xfff0007f#64, .opcode, 0⟩,
  ⟨"fclass.q", 0, .qInx, "d,S", 0xe6001053#64, 0xfff0707f#64, .opcode, 0⟩,
  ⟨"feq.q", 0, .qInx, "d,S,T", 0xa6002053#64, 0xfe00707f#64, .opcode, 0⟩,
  ⟨"flt.q", 0, .qInx, "d,S,T", 0xa6001053#64, 0xfe00707f#64, .opcode, 0⟩,
  ⟨"fle.q", 0, .qInx, "d,S,T", 0xa6000053#64, 0xfe00707f#64, .opcode, 0⟩,
  ⟨"fgt.q", 0, .qInx, "d,T,S", 0xa6001053#64, 0xfe00707f#64, .opcode, 0⟩,
  ⟨"fge.q", 0, .qInx, "d,T,S", 0xa6000053#64, 0xfe00707f#64, .opcode, 0⟩,
  ⟨"fcvt.l.q", 64, .qInx, "d,S", 0xc6207053#64, 0xfff0707f#64, .opcode, 0⟩,
  ⟨"fcvt.l.q", 64, .qInx, "d,S,m", 0xc6200053#64, 0xfff0007f#64, .opcode, 0⟩,
  ⟨"fcvt.lu.q", 64, .qInx, "d,S", 0xc6307053#64, 0xfff0707f#64, .opcode, 0⟩,
  ⟨"fcvt.lu.q", 64, .qInx, "d,S,m", 0xc6300053#64, 0xfff0007f#64, .opcode, 0⟩,
  ⟨"fcvt.q.l", 64, .qInx, "D,s", 0xd6200053#64, 0xfff0707f#64, .opcode, 0⟩,
  ⟨"fcvt.q.l", 64, .qInx, "D,s,m", 0xd6200053#64, 0xfff0007f#64, .opcode, 0⟩,
  ⟨"fcvt.q.lu", 64, .qInx, "D,s", 0xd6300053#64, 0xfff0707f#64, .opcode, 0⟩,
  ⟨"fcvt.q.lu", 64, .qInx, "D,s,m", 0xd6300053#64, 0xfff0007f#64, .opcode, 0⟩]

/-- Compressed instructions. -/
def compressedInsns : List RiscvOpcodeRow := [
  ⟨"c.unimp", 0, .c, "", 0#64, 0xffff#64, .opcode, 0⟩,
  ⟨"c.ebreak", 0, .c, "", 0x9002#64, 0xffff#64, .opcode, 0⟩,
  ⟨"c.jr", 0, .c, "d", 0x8002#64, 0xf07f#64, .rdNonzero, insnBranch⟩,
  ⟨"c.jalr", 0, .c, "d", 0x9002#64, 0xf07f#64, .rdNonzero, insnJsr⟩,
  ⟨"c.j", 0, .c, "Ca", 0xa001#64, 0xe003#64, .opcode, insnBranch⟩,
  ⟨"c.jal", 32, .c, "Ca", 0x2001#64, 0xe003#64, .opcode, insnJsr⟩,
  ⟨"c.beqz", 0, .c, "Cs,Cp", 0xc001#64, 0xe003#64, .opcode, insnCondbranch⟩,
  ⟨"c.bnez", 0, .c, "Cs,Cp", 0xe001#64, 0xe003#64, .opcode, insnCondbranch⟩,
  ⟨"c.lwsp", 0, .c, "d,Cm(Cc)", 0x4002#64, 0xe003#64, .rdNonzero, 0⟩,
  ⟨"c.lw", 0, .c, "Ct,Ck(Cs)", 0x4000#64, 0xe003#64, .opcode, insnDref ||| insn4Byte⟩,
  ⟨"c.swsp", 0, .c, "CV,CM(Cc)", 0xc002#64, 0xe003#64, .opcode, insnDref ||| insn4Byte⟩,
  ⟨"c.sw", 0, .c, "Ct,Ck(Cs)", 0xc000#64, 0xe003#64, .opcode, insnDref ||| insn4Byte⟩,
  ⟨"c.nop", 0, .c, "", 0x1#64, 0xffff#64, .opcode, insnAlias⟩,
  ⟨"c.nop", 0, .c, "Cj", 0x1#64, 0xef83#64, .opcode, insnAlias⟩,
  ⟨"c.mv", 0, .c, "d,CV", 0x8002#64, 0xf003#64, .cAddWithHint, 0⟩,
  ⟨"c.lui", 0, .c, "d,Cu", 0x6001#64, 0xe003#64, .cLuiWithHint, 0⟩,
  ⟨"c.li", 0, .c, "d,Co", 0x4001#64, 0xe003#64, .opcode, 0⟩,
  ⟨"c.addi4spn", 0, .c, "Ct,Cc,CK", 0#64, 0xe003#64, .cAddi4spn, 0⟩,
  ⟨"c.addi16sp", 0, .c, "Cc,CL", 0x6101#64, 0xef83#64, .cAddi16sp, 0⟩,
  ⟨"c.addi", 0, .c, "d,Co", 0x1#64, 0xe003#64, .opcode, 0⟩,
  ⟨"c.add", 0, .c, "d,CV", 0x9002#64, 0xf003#64, .cAddWithHint, 0⟩,
  ⟨"c.sub", 0, .c, "Cs,Ct", 0x8c01#64, 0xfc63#64, .opcode, 0⟩,
  ⟨"c.and", 0, .c, "Cs,Ct", 0x8c61#64, 0xfc63#64, .opcode, 0⟩,
  ⟨"c.or", 0, .c, "Cs,Ct", 0x8c41#64, 0xfc63#64, .opcode, 0⟩,
  ⟨"c.xor", 0, .c, "Cs,Ct", 0x8c21#64, 0xfc63#64, .opcode, 0⟩,
  ⟨"c.slli", 0, .c, "d,C>", 0x2#64, 0xe003#64, .cSlli, 0⟩,
  ⟨"c.srli", 0, .c, "Cs,C>", 0x8001#64, 0xec03#64, .cSlli, 0⟩,
  ⟨"c.srai", 0, .c, "Cs,C>", 0x8401#64, 0xec03#64, .cSlli, 0⟩,
  ⟨"c.slli64", 0, .c, "d", 0x2#64, 0xf07f#64, .cSlli64, 0⟩,
  ⟨"c.srli64", 0, .c, "Cs", 0x8001#64, 0xfc7f#64, .cSlli64, 0⟩,
  ⟨"c.srai64", 0, .c, "Cs", 0x8401#64, 0xfc7f#64, .cSlli64, 0⟩,
  ⟨"c.andi", 0, .c, "Cs,Co", 0x8801#64, 0xec03#64, .opcode, 0⟩,
  ⟨"c.addiw", 64, .c, "d,Co", 0x2001#64, 0xe003#64, .rdNonzero, 0⟩,
  ⟨"c.addw", 64, .c, "Cs,Ct", 0x9c21#64, 0xfc63#64, .opcode, 0⟩,
  ⟨"c.subw", 64, .c, "Cs,Ct", 0x9c01#64, 0xfc63#64, .opcode, 0⟩,
  ⟨"c.ldsp", 64, .c, "d,Cn(Cc)", 0x6002#64, 0xe003#64, .rdNonzero, insnDref ||| insn8Byte⟩,
  ⟨"c.ld", 64, .c, "Ct,Cl(Cs)", 0x6000#64, 0xe003#64, .opcode, insnDref ||| insn8Byte⟩,
  ⟨"c.sdsp", 64, .c, "CV,CN(Cc)", 0xe002#64, 0xe003#64, .opcode, insnDref ||| insn8Byte⟩,
  ⟨"c.sd", 64, .c, "Ct,Cl(Cs)", 0xe000#64, 0xe003#64, .opcode, insnDref ||| insn8Byte⟩,
  ⟨"c.fldsp", 0, .dAndC, "D,Cn(Cc)", 0x2002#64, 0xe003#64, .opcode, insnDref ||| insn8Byte⟩,
  ⟨"c.fld", 0, .dAndC, "CD,Cl(Cs)", 0x2000#64, 0xe003#64, .opcode, insnDref ||| insn8Byte⟩,
  ⟨"c.fsdsp", 0, .dAndC, "CT,CN(Cc)", 0xa002#64, 0xe003#64, .opcode, insnDref ||| insn8Byte⟩,
  ⟨"c.fsd", 0, .dAndC, "CD,Cl(Cs)", 0xa000#64, 0xe003#64, .opcode, insnDref ||| insn8Byte⟩,
  ⟨"c.flwsp", 32, .fAndC, "D,Cm(Cc)", 0x6002#64, 0xe003#64, .opcode, insnDref ||| insn4Byte⟩,
  ⟨"c.flw", 32, .fAndC, "CD,Ck(Cs)", 0x6000#64, 0xe003#64, .opcode, insnDref ||| insn4Byte⟩,
  ⟨"c.fswsp", 32, .fAndC, "CT,CM(Cc)", 0xe002#64, 0xe003#64, .opcode, insnDref ||| insn4Byte⟩,
  ⟨"c.fsw", 32, .fAndC, "CD,Ck(Cs)", 0xe000#64, 0xe003#64, .opcode, insnDref ||| insn4Byte⟩]

/-- Zicbom, Zicboz, Zicond and Zawrs instructions. -/
def zicInsns : List RiscvOpcodeRow := [
  ⟨"cbo.clean", 0, .zicbom, "0(s)", 0x10200f#64, 0xfff07fff#64, .opcode, 0⟩,
  ⟨"cbo.flush", 0, .zicbom, "0(s)", 0x20200f#64, 0xfff07fff#64, .opcode, 0⟩,
  ⟨"cbo.inval", 0, .zicbom, "0(s)", 0x200f#64, 0xfff07fff#64, .opcode, 0⟩,
  ⟨"cbo.zero", 0, .zicboz, "0(s)", 0x40200f#64, 0xfff07fff#64, .opcode, 0⟩,
  ⟨"czero.eqz", 0, .zicond, "d,s,t", 0xe005033#64, 0xfe00707f#64, .opcode, 0⟩,
  ⟨"czero.nez", 0, .zicond, "d,s,t", 0xe007033#64, 0xfe00707f#64, .opcode, 0⟩,
  ⟨"wrs.nto", 0, .zawrs, "", 0xd00073#64, 0xffffffff#64, .opcode, 0⟩,
  ⟨"wrs.sto", 0, .zawrs, "", 0x1d00073#64, 0xffffffff#64, .opcode, 0⟩]

/-- Zfa instructions. -/
def zfaInsns : List RiscvOpcodeRow := [
  ⟨"fli.s", 0, .zfa, "D,Wfv", 0xf0100053#64, 0xfff0707f#64, .opcode, 0⟩,
  ⟨"fli.d", 0, .dAndZfa, "D,Wfv", 0xf2100053#64, 0xfff0707f#64, .opcode, 0⟩,
  ⟨"fli.q", 0, .qAndZfa, "D,Wfv", 0xf6100053#64, 0xfff0707f#64, .opcode, 0⟩,
  ⟨"fli.h", 0, .zfhOrZvfhAndZfa, "D,Wfv", 0xf4100053#64, 0xfff0707f#64, .opcode, 0⟩,
  ⟨"fminm.s", 0, .zfa, "D,S,T", 0x28002053#64, 0xfe00707f#64, .opcode, 0⟩,
  ⟨"fmaxm.s", 0, .zfa, "D,S,T", 0x28003053#64, 0xfe00707f#64, .opcode, 0⟩,
  ⟨"fminm.d", 0, .dAndZfa, "D,S,T", 0x2a002053#64, 0xfe00707f#64, .opcode, 0⟩,
  ⟨"fmaxm.d", 0, .dAndZfa, "D,S,T", 0x2a003053#64, 0xfe00707f#64, .opcode, 0⟩,
  ⟨"fminm.q", 0, .qAndZfa, "D,S,T", 0x2e002053#64, 0xfe00707f#64, .opcode, 0⟩,
  ⟨"fmaxm.q", 0, .qAndZfa, "D,S,T", 0x2e003053#64, 0xfe00707f#64, .opcode, 0⟩,
  ⟨"fminm.h", 0, .zfhAndZfa, "D,S,T", 0x2c002053#64, 0xfe00707f#64, .opcode, 0⟩,
  ⟨"fmaxm.h", 0, .zfhAndZfa, "D,S,T", 0x2c003053#64, 0xfe00707f#64, .opcode, 0⟩,
  ⟨"fround.s", 0, .zfa, "D,S", 0x40407053#64, 0xfff0707f#64, .opcode, 0⟩,
  ⟨"fround.s", 0, .zfa, "D,S,m", 0x40400053#64, 0xfff0007f#64, .opcode, 0⟩,
  ⟨"froundnx.s", 0, .zfa, "D,S", 0x40507053#64, 0xfff0707f#64, .opcode, 0⟩,
  ⟨"froundnx.s", 0, .zfa, "D,S,m", 0x40500053#64, 0xfff0007f#64, .opcode, 0⟩,
  ⟨"fround.d", 0, .dAndZfa, "D,S", 0x42407053#64, 0xfff0707f#64, .opcode, 0⟩,
  ⟨"fround.d", 0, .dAndZfa, "D,S,m", 0x42400053#64, 0xfff0007f#64, .opcode, 0⟩,
  ⟨"froundnx.d", 0, .dAndZfa, "D,S", 0x42507053#64, 0xfff0707f#64, .opcode, 0⟩,
  ⟨"froundnx.d", 0, .dAndZfa, "D,S,m", 0x42500053#64, 0xfff0007f#64, .opcode, 0⟩,
  ⟨"fround.q", 0, .qAndZfa, "D,S", 0x46407053#64, 0xfff0707f#64, .opcode, 0⟩,
  ⟨"fround.q", 0, .qAndZfa, "D,S,m", 0x46400053#64, 0xfff0007f#64, .opcode, 0⟩,
  ⟨"froundnx.q", 0, .qAndZfa, "D,S", 0x46507053#64, 0xfff0707f#64, .opcode, 0⟩,
  ⟨"froundnx.q", 0, .qAndZfa, "D,S,m", 0x46500053#64, 0xfff0007f#64, .opcode, 0⟩,
  ⟨"fround.h", 0, .zfhAndZfa, "D,S", 0x44407053#64, 0xfff0707f#64, .opcode, 0⟩,
  ⟨"fround.h", 0, .zfhAndZfa, "D,S,m", 0x44400053#64, 0xfff0007f#64, .opcode, 0⟩,
  ⟨"froundnx.h", 0, .zfhAndZfa, "D,S", 0x44507053#64, 0xfff0707f#64, .opcode, 0⟩,
  ⟨"froundnx.h", 0, .zfhAndZfa, "D,S,m", 0x44500053#64, 0xfff0007f#64, .opcode, 0⟩,
  ⟨"fcvtmod.w.d", 0, .dAndZfa, "d,S,m", 0xc2801053#64, 0xfff0707f#64, .opcode, 0⟩,
  ⟨"fmvh.x.d", 32, .dAndZfa, "d,S", 0xe2100053#64, 0xfff0707f#64, .opcode, 0⟩,
  ⟨"fmvp.d.x", 32, .dAndZfa, "D,s,t", 0xb2000053#64, 0xfe00707f#64, .opcode, 0⟩,
  ⟨"fmvh.x.q", 64, .qAndZfa, "d,S", 0xe6100053#64, 0xfff0707f#64, .opcode, 0⟩,
  ⟨"fmvp.q.x", 64, .qAndZfa, "D,s,t", 0xb6000053#64, 0xfe00707f#64, .opcode, 0⟩,
  ⟨"fltq.s", 0, .zfa, "d,S,T", 0xa0005053#64, 0xfe00707f#64, .opcode, 0⟩,
  ⟨"fleq.s", 0, .zfa, "d,S,T", 0xa0004053#64, 0xfe00707f#64, .opcode, 0⟩,
  ⟨"fltq.d", 0, .dAndZfa, "d,S,T", 0xa2005053#64, 0xfe00707f#64, .opcode, 0⟩,
  ⟨"fleq.d", 0, .dAndZfa, "d,S,T", 0xa2004053#64, 0xfe00707f#64, .opcode, 0⟩,
  ⟨"fltq.q", 0, .qAndZfa, "d,S,T", 0xa6005053#64, 0xfe00707f#64, .opcode, 0⟩,
  ⟨"fleq.q", 0, .qAndZfa, "d,S,T", 0xa6004053#64, 0xfe00707f#64, .opcode, 0⟩,
  ⟨"fltq.h", 0, .zfhAndZfa, "d,S,T", 0xa4005053#64, 0xfe00707f#64, .opcode, 0⟩,
  ⟨"fleq.h", 0, .zfhAndZfa, "d,S,T", 0xa4004053#64, 0xfe00707f#64, .opcode, 0⟩]

/-- Zbb, Zbkb, Zba, Zbc, Zbkc, Zbs and Zbkx instructions. -/
def bitmanipInsns : List RiscvOpcodeRow := [
  ⟨"clz", 0, .zbb, "d,s", 0x60001013#64, 0xfff0707f#64, .opcode, 0⟩,
  ⟨"ctz", 0, .zbb, "d,s", 0x60101013#64, 0xfff0707f#64, .opcode, 0⟩,
  ⟨"cpop", 0, .zbb, "d,s", 0x60201013#64, 0xfff0707f#64, .opcode, 0⟩,
  ⟨"min", 0, .zbb, "d,s,t", 0xa004033#64, 0xfe00707f#64, .opcode, 0⟩,
  ⟨"max", 0, .zbb, "d,s,t", 0xa006033#64, 0xfe00707f#64, .opcode, 0⟩,
  ⟨"minu", 0, .zbb, "d,s,t", 0xa005033#64, 0xfe00707f#64, .opcode, 0⟩,
  ⟨"maxu", 0, .zbb, "d,s,t", 0xa007033#64, 0xfe00707f#64, .opcode, 0⟩,
  ⟨"sext.b", 0, .zcbAndZbb, "Cs,Cw", 0x9c65#64, 0xfc7f#64, .opcode, insnAlias⟩,
  ⟨"sext.b", 0, .zbb, "d,s", 0x60401013#64, 0xfff0707f#64, .opcode, 0⟩,
  ⟨"sext.b", 0, .i, "d,s", 0#64, 0xd#64, .null, insnMacro⟩,
  ⟨"sext.h", 0, .zcbAndZbb, "Cs,Cw", 0x9c6d#64, 0xfc7f#64, .opcode, insnAlias⟩,
  ⟨"sext.h", 0, .zbb, "d,s", 0x60501013#64, 0xfff0707f#64, .opcode, 0⟩,
  ⟨"sext.h", 0, .i, "d,s", 0#64, 0xb#64, .null, insnMacro⟩,
  ⟨"zext.h", 0, .zcbAndZbb, "Cs,Cw", 0x9c69#64, 0xfc7f#64, .opcode, insnAlias⟩,
  ⟨"zext.h", 32, .zbb, "d,s", 0x8004033#64, 0xfff0707f#64, .opcode, 0⟩,
  ⟨"zext.h", 64, .zbb, "d,s", 0x800403b#64, 0xfff0707f#64, .opcode, 0⟩,
  ⟨"zext.h", 0, .i, "d,s", 0#64, 0xb#64, .null, insnMacro⟩,
  ⟨"orc.b", 0, .zbb, "d,s", 0x28705013#64, 0xfff0707f#64, .opcode, 0⟩,
  ⟨"clzw", 64, .zbb, "d,s", 0x6000101b#64, 0xfff0707f#64, .opcode, 0⟩,
  ⟨"ctzw", 64, .zbb, "d,s", 0x6010101b#64, 0xfff0707f#64, .opcode, 0⟩,
  ⟨"cpopw", 64, .zbb, "d,s", 0x6020101b#64, 0xfff0707f#64, .opcode, 0⟩,
  ⟨"brev8", 32, .zbkb, "d,s", 0x68705013#64, 0xfff0707f#64, .opcode, 0⟩,
  ⟨"brev8", 64, .zbkb, "d,s", 0x68705013#64, 0xfff0707f#64, .opcode, 0⟩,
  ⟨"zip", 32, .zbkb, "d,s", 0x8f01013#64, 0xfff0707f#64, .opcode, 0⟩,
  ⟨"unzip", 32, .zbkb, "d,s", 0x8f05013#64, 0xfff0707f#64, .opcode, 0⟩,
  ⟨"pack", 0, .zbkb, "d,s,t", 0x8004033#64, 0xfe00707f#64, .opcode, 0⟩,
  ⟨"packh", 0, .zbkb, "d,s,t", 0x8007033#64, 0xfe00707f#64, .opcode, 0⟩,
  ⟨"packw", 64, .zbkb, "d,s,t", 0x800403b#64, 0xfe00707f#64, .opcode, 0⟩,
  ⟨"andn", 0, .zbbOrZbkb, "d,s,t", 0x40007033#64, 0xfe00707f#64, .opcode, 0⟩,
  ⟨"orn", 0, .zbbOrZbkb, "d,s,t", 0x40006033#64, 0xfe00707f#64, .opcode, 0⟩,
  ⟨"xnor", 0, .zbbOrZbkb, "d,s,t", 0x40004033#64, 0xfe00707f#64, .opcode, 0⟩,
  ⟨"rol", 0, .zbbOrZbkb, "d,s,t", 0x60001033#64, 0xfe00707f#64, .opcode, 0⟩,
  ⟨"rori", 0, .zbbOrZbkb, "d,s,>", 0x60005013#64, 0xfc00707f#64, .opcode, 0⟩,
  ⟨"ror", 0, .zbbOrZbkb, "d,s,t", 0x60005033#64, 0xfe00707f#64, .opcode, 0⟩,
  ⟨"ror", 0, .zbbOrZbkb, "d,s,>", 0x60005013#64, 0xfc00707f#64, .opcode, insnAlias⟩,
  ⟨"rev8", 32, .zbbOrZbkb, "d,s", 0x69805013#64, 0xfff0707f#64, .opcode, 0⟩,
  ⟨"rev8", 64, .zbbOrZbkb, "d,s", 0x6b805013#64, 0xfff0707f#64, .opcode, 0⟩,
  ⟨"rolw", 64, .zbbOrZbkb, "d,s,t", 0x6000103b#64, 0xfe00707f#64, .opcode, 0⟩,
  ⟨"roriw", 64, .zbbOrZbkb, "d,s,<", 0x6000501b#64, 0xfe00707f#64, .opcode, 0⟩,
  ⟨"rorw", 64, .zbbOrZbkb, "d,s,t", 0x6000503b#64, 0xfe00707f#64, .opcode, 0⟩,
  ⟨"rorw", 64, .zbbOrZbkb, "d,s,<", 0x6000501b#64, 0xfe00707f#64, .opcode, insnAlias⟩,
  ⟨"sh1add", 0, .zba, "d,s,t", 0x20002033#64, 0xfe00707f#64, .opcode, 0⟩,
  ⟨"sh2add", 0, .zba, "d,s,t", 0x20004033#64, 0xfe00707f#64, .opcode, 0⟩,
  ⟨"sh3add", 0, .zba, "d,s,t", 0x20006033#64, 0xfe00707f#64, .opcode, 0⟩,
  ⟨"sh1add.uw", 64, .zba, "d,s,t", 0x2000203b#64, 0xfe00707f#64, .opcode, 0⟩,
  ⟨"sh2add.uw", 64, .zba, "d,s,t", 0x2000403b#64, 0xfe00707f#64, .opcode, 0⟩,
  ⟨"sh3add.uw", 64, .zba, "d,s,t", 0x2000603b#64, 0xfe00707f#64, .opcode, 0⟩,
  ⟨"zext.w", 64, .zcbAndZba, "Cs,Cw", 0x9c71#64, 0xfc7f#64, .opcode, insnAlias⟩,
  ⟨"zext.w", 64, .zba, "d,s", 0x800003b#64, 0xfff0707f#64, .opcode, insnAlias⟩,
  ⟨"zext.w", 64, .i, "d,s", 0#64, 0xc#64, .null, insnMacro⟩,
  ⟨"add.uw", 64, .zba, "d,s,t", 0x800003b#64, 0xfe00707f#64, .opcode, 0⟩,
  ⟨"slli.uw", 64, .zba, "d,s,>", 0x800101b#64, 0xfc00707f#64, .opcode, 0⟩,
  ⟨"clmul", 0, .zbcOrZbkc, "d,s,t", 0xa001033#64, 0xfe00707f#64, .opcode, 0⟩,
  ⟨"clmulh", 0, .zbcOrZbkc, "d,s,t", 0xa003033#64, 0xfe00707f#64, .opcode, 0⟩,
  ⟨"clmulr", 0, .zbc, "d,s,t", 0xa002033#64, 0xfe00707f#64, .opcode, 0⟩,
  ⟨"bclri", 0, .zbs, "d,s,>", 0x48001013#64, 0xfc00707f#64, .opcode, 0⟩,
  ⟨"bclr", 0, .zbs, "d,s,t", 0x48001033#64, 0xfe00707f#64, .opcode, 0⟩,
  ⟨"bclr", 0, .zbs, "d,s,>", 0x48001013#64, 0xfc00707f#64, .opcode, insnAlias⟩,
  ⟨"bseti", 0, .zbs, "d,s,>", 0x28001013#64, 0xfc00707f#64, .opcode, 0⟩,
  ⟨"bset", 0, .zbs, "d,s,t", 0x28001033#64, 0xfe00707f#64, .opcode, 0⟩,
  ⟨"bset", 0, .zbs, "d,s,>", 0x28001013#64, 0xfc00707f#64, .opcode, insnAlias⟩,
  ⟨"binvi", 0, .zbs, "d,s,>", 0x68001013#64, 0xfc00707f#64, .opcode, 0⟩,
  ⟨"binv", 0, .zbs, "d,s,t", 0x68001033#64, 0xfe00707f#64, .opcode, 0⟩,
  ⟨"binv", 0, .zbs, "d,s,>", 0x68001013#64, 0xfc00707f#64, .opcode, insnAlias⟩,
  ⟨"bexti", 0, .zbs, "d,s,>", 0x48005013#64, 0xfc00707f#64, .opcode, 0⟩,
  ⟨"bext", 0, .zbs, "d,s,t", 0x48005033#64, 0xfe00707f#64, .opcode, 0⟩,
  ⟨"bext", 0, .zbs, "d,s,>", 0x48005013#64, 0xfc00707f#64, .opcode, insnAlias⟩,
  ⟨"xperm4", 0, .zbkx, "d,s,t", 0x28002033#64, 0xfe00707f#64, .opcode, 0⟩,
  ⟨"xperm8", 0, .zbkx, "d,s,t", 0x28004033#64, 0xfe00707f#64, .opcode, 0⟩]

/-- Zknd, Zkne, Zknh, Zksed and Zksh instructions. -/
def cryptoInsns : List RiscvOpcodeRow := [
  ⟨"aes32dsi", 32, .zknd, "d,s,t,y", 0x2a000033#64, 0x3e00707f#64, .opcode, 0⟩,
  ⟨"aes32dsmi", 32, .zknd, "d,s,t,y", 0x2e000033#64, 0x3e00707f#64, .opcode, 0⟩,
  ⟨"aes64ds", 64, .zknd, "d,s,t", 0x3a000033#64, 0xfe00707f#64, .opcode, 0⟩,
  ⟨"aes64dsm", 64, .zknd, "d,s,t", 0x3e000033#64, 0xfe00707f#64, .opcode, 0⟩,
  ⟨"aes64im", 64, .zknd, "d,s", 0x30001013#64, 0xfff0707f#64, .opcode, 0⟩,
  ⟨"aes64ks1i", 64, .zkndOrZkne, "d,s,Y", 0x31001013#64, 0xff00707f#64, .opcode, 0⟩,
  ⟨"aes64ks2", 64, .zkndOrZkne, "d,s,t", 0x7e000033#64, 0xfe00707f#64, .opcode, 0⟩,
  ⟨"aes32esi", 32, .zkne, "d,s,t,y", 0x22000033#64, 0x3e00707f#64, .opcode, 0⟩,
  ⟨"aes32esmi", 32, .zkne, "d,s,t,y", 0x26000033#64, 0x3e00707f#64, .opcode, 0⟩,
  ⟨"aes64es", 64, .zkne, "d,s,t", 0x32000033#64, 0xfe00707f#64, .opcode, 0⟩,
  ⟨"aes64esm", 64, .zkne, "d,s,t", 0x36000033#64, 0xfe00707f#64, .opcode, 0⟩,
  ⟨"sha256sig0", 0, .zknh, "d,s", 0x10201013#64, 0xfff0707f#64, .opcode, 0⟩,
  ⟨"sha256sig1", 0, .zknh, "d,s", 0x10301013#64, 0xfff0707f#64, .opcode, 0⟩,
  ⟨"sha256sum0", 0, .zknh, "d,s", 0x10001013#64, 0xfff0707f#64, .opcode, 0⟩,
  ⟨"sha256sum1", 0, .zknh, "d,s", 0x10101013#64, 0xfff0707f#64, .opcode, 0⟩,
  ⟨"sha512sig0h", 32, .zknh, "d,s,t", 0x5c000033#64, 0xfe00707f#64, .opcode, 0⟩,
  ⟨"sha512sig0l", 32, .zknh, "d,s,t", 0x54000033#64, 0xfe00707f#64, .opcode, 0⟩,
  ⟨"sha512sig1h", 32, .zknh, "d,s,t", 0x5e000033#64, 0xfe00707f#64, .opcode, 0⟩,
  ⟨"sha512sig1l", 32, .zknh, "d,s,t", 0x56000033#64, 0xfe00707f#64, .opcode, 0⟩,
  ⟨"sha512sum0r", 32, .zknh, "d,s,t", 0x50000033#64, 0xfe00707f#64, .opcode, 0⟩,
  ⟨"sha512sum1r", 32, .zknh, "d,s,t", 0x52000033#64, 0xfe00707f#64, .opcode, 0⟩,
  ⟨"sha512sig0", 64, .zknh, "d,s", 0x10601013#64, 0xfff0707f#64, .opcode, 0⟩,
  ⟨"sha512sig1", 64, .zknh, "d,s", 0x10701013#64, 0xfff0707f#64, .opcode, 0⟩,
  ⟨"sha512sum0", 64, .zknh, "d,s", 0x10401013#64, 0xfff0707f#64, .opcode, 0⟩,
  ⟨"sha512sum1", 64, .zknh, "d,s", 0x10501013#64, 0xfff0707f#64, .opcode, 0⟩,
  ⟨"sm4ed", 0, .zksed, "d,s,t,y", 0x30000033#64, 0x3e00707f#64, .opcode, 0⟩,
  ⟨"sm4ks", 0, .zksed, "d,s,t,y", 0x34000033#64, 0x3e00707f#64, .opcode, 0⟩,
  ⟨"sm3p0", 0, .zksh, "d,s", 0x10801013#64, 0xfff0707f#64, .opcode, 0⟩,
  ⟨"sm3p1", 0, .zksh, "d,s", 0x10901013#64, 0xfff0707f#64, .opcode, 0⟩]

end RiscvBinutils.Opcode
