/-
The rest of the table `riscv_opcodes` (opcodes/riscv-opc.c): ZCB, the privileged instructions and those of vendors.
-/
import RiscvBinutils.Opcode.Row

namespace RiscvBinutils.Opcode

/-- ZCB instructions. -/
def zcbInsns : List RiscvOpcodeRow := [
  ⟨"c.lbu", 0, .zcb, "Ct,Wcb(Cs)", 0x8000#64, 0xfc03#64, .opcode, insnDref ||| insn1Byte⟩,
  ⟨"c.lhu", 0, .zcb, "Ct,Wch(Cs)", 0x8400#64, 0xfc43#64, .opcode, insnDref ||| insn2Byte⟩,
  ⟨"c.lh", 0, .zcb, "Ct,Wch(Cs)", 0x8440#64, 0xfc43#64, .opcode, insnDref ||| insn2Byte⟩,
  ⟨"c.sb", 0, .zcb, "Ct,Wcb(Cs)", 0x8800#64, 0xfc03#64, .opcode, insnDref ||| insn1Byte⟩,
  ⟨"c.sh", 0, .zcb, "Ct,Wch(Cs)", 0x8c00#64, 0xfc43#64, .opcode, insnDref ||| insn2Byte⟩,
  ⟨"c.not", 0, .zcb, "Cs", 0x9c75#64, 0xfc7f#64, .opcode, 0⟩,
  ⟨"c.mul", 0, .zcbAndZmmul, "Cs,Ct", 0x9c41#64, 0xfc63#64, .opcode, 0⟩,
  ⟨"c.sext.b", 0, .zcbAndZbb, "Cs", 0x9c65#64, 0xfc7f#64, .opcode, 0⟩,
  ⟨"c.sext.h", 0, .zcbAndZbb, "Cs", 0x9c6d#64, 0xfc7f#64, .opcode, 0⟩,
  ⟨"c.zext.h", 0, .zcbAndZbb, "Cs", 0x9c69#64, 0xfc7f#64, .opcode, 0⟩,
  ⟨"c.zext.w", 64, .zcbAndZba, "Cs", 0x9c71#64, 0xfc7f#64, .opcode, 0⟩,
  ⟨"c.zext.b", 0, .zcb, "Cs", 0x9c61#64, 0xfc7f#64, .opcode, 0⟩,
  ⟨"c.sext.w", 64, .zcb, "d", 0x2001#64, 0xf07f#64, .rdNonzero, insnAlias⟩]

/-- Supervisor, Svinval and hypervisor instructions. -/
def supervisorInsns : List RiscvOpcodeRow := [
  ⟨"csrr", 0, .zicsr, "d,E", 0x2073#64, 0xff07f#64, .opcode, insnAlias⟩,
  ⟨"csrwi", 0, .zicsr, "E,Z", 0x5073#64, 0x7fff#64, .opcode, insnAlias⟩,
  ⟨"csrw", 0, .zicsr, "E,s", 0x1073#64, 0x7fff#64, .opcode, insnAlias⟩,
  ⟨"csrw", 0, .zicsr, "E,Z", 0x5073#64, 0x7fff#64, .opcode, insnAlias⟩,
  ⟨"csrsi", 0, .zicsr, "E,Z", 0x6073#64, 0x7fff#64, .opcode, insnAlias⟩,
  ⟨"csrs", 0, .zicsr, "E,s", 0x2073#64, 0x7fff#64, .opcode, insnAlias⟩,
  ⟨"csrs", 0, .zicsr, "E,Z", 0x6073#64, 0x7fff#64, .opcode, insnAlias⟩,
  ⟨"csrci", 0, .zicsr, "E,Z", 0x7073#64, 0x7fff#64, .opcode, insnAlias⟩,
  ⟨"csrc", 0, .zicsr, "E,s", 0x3073#64, 0x7fff#64, .opcode, insnAlias⟩,
  ⟨"csrc", 0, .zicsr, "E,Z", 0x7073#64, 0x7fff#64, .opcode, insnAlias⟩,
  ⟨"csrrwi", 0, .zicsr, "d,E,Z", 0x5073#64, 0x707f#64, .opcode, 0⟩,
  ⟨"csrrw", 0, .zicsr, "d,E,s", 0x1073#64, 0x707f#64, .opcode, 0⟩,
  ⟨"csrrw", 0, .zicsr, "d,E,Z", 0x5073#64, 0x707f#64, .opcode, insnAlias⟩,
  ⟨"csrrsi", 0, .zicsr, "d,E,Z", 0x6073#64, 0x707f#64, .opcode, 0⟩,
  ⟨"csrrs", 0, .zicsr, "d,E,s", 0x2073#64, 0x707f#64, .opcode, 0⟩,
  ⟨"csrrs", 0, .zicsr, "d,E,Z", 0x6073#64, 0x707f#64, .opcode, insnAlias⟩,
  ⟨"csrrci", 0, .zicsr, "d,E,Z", 0x7073#64, 0x707f#64, .opcode, 0⟩,
  ⟨"csrrc", 0, .zicsr, "d,E,s", 0x3073#64, 0x707f#64, .opcode, 0⟩,
  ⟨"csrrc", 0, .zicsr, "d,E,Z", 0x7073#64, 0x707f#64, .opcode, insnAlias⟩,
  ⟨"uret", 0, .i, "", 0x200073#64, 0xffffffff#64, .opcode, 0⟩,
  ⟨"sret", 0, .i, "", 0x10200073#64, 0xffffffff#64, .opcode, 0⟩,
  ⟨"hret", 0, .i, "", 0x20200073#64, 0xffffffff#64, .opcode, 0⟩,
  ⟨"mret", 0, .i, "", 0x30200073#64, 0xffffffff#64, .opcode, 0⟩,
  ⟨"dret", 0, .i, "", 0x7b200073#64, 0xffffffff#64, .opcode, 0⟩,
  ⟨"sfence.vm", 0, .i, "", 0x10400073#64, 0xffffffff#64, .opcode, 0⟩,
  ⟨"sfence.vm", 0, .i, "s", 0x10400073#64, 0xfff07fff#64, .opcode, 0⟩,
  ⟨"sfence.vma", 0, .i, "", 0x12000073#64, 0xffffffff#64, .opcode, insnAlias⟩,
  ⟨"sfence.vma", 0, .i, "s", 0x12000073#64, 0xfff07fff#64, .opcode, insnAlias⟩,
  ⟨"sfence.vma", 0, .i, "s,t", 0x12000073#64, 0xfe007fff#64, .opcode, 0⟩,
  ⟨"wfi", 0, .i, "", 0x10500073#64, 0xffffffff#64, .opcode, 0⟩,
  ⟨"sinval.vma", 0, .svinval, "s,t", 0x16000073#64, 0xfe007fff#64, .opcode, 0⟩,
  ⟨"sfence.w.inval", 0, .svinval, "", 0x18000073#64, 0xffffffff#64, .opcode, 0⟩,
  ⟨"sfence.inval.ir", 0, .svinval, "", 0x18100073#64, 0xffffffff#64, .opcode, 0⟩,
  ⟨"hinval.vvma", 0, .svinval, "s,t", 0x26000073#64, 0xfe007fff#64, .opcode, 0⟩,
  ⟨"hinval.gvma", 0, .svinval, "s,t", 0x66000073#64, 0xfe007fff#64, .opcode, 0⟩,
  ⟨"hfence.vvma", 0, .h, "", 0x22000073#64, 0xffffffff#64, .opcode, insnAlias⟩,
  ⟨"hfence.vvma", 0, .h, "s", 0x22000073#64, 0xfff07fff#64, .opcode, insnAlias⟩,
  ⟨"hfence.vvma", 0, .h, "s,t", 0x22000073#64, 0xfe007fff#64, .opcode, 0⟩,
  ⟨"hfence.gvma", 0, .h, "", 0x62000073#64, 0xffffffff#64, .opcode, insnAlias⟩,
  ⟨"hfence.gvma", 0, .h, "s", 0x62000073#64, 0xfff07fff#64, .opcode, insnAlias⟩,
  ⟨"hfence.gvma", 0, .h, "s,t", 0x62000073#64, 0xfe007fff#64, .opcode, 0⟩,
  ⟨"hlv.b", 0, .h, "d,0(s)", 0x60004073#64, 0xfff0707f#64, .opcode, insnDref ||| insn1Byte⟩,
  ⟨"hlv.bu", 0, .h, "d,0(s)", 0x60104073#64, 0xfff0707f#64, .opcode, insnDref ||| insn1Byte⟩,
  ⟨"hlv.h", 0, .h, "d,0(s)", 0x64004073#64, 0xfff0707f#64, .opcode, insnDref ||| insn2Byte⟩,
  ⟨"hlv.hu", 0, .h, "d,0(s)", 0x64104073#64, 0xfff0707f#64, .opcode, insnDref ||| insn2Byte⟩,
  ⟨"hlvx.hu", 0, .h, "d,0(s)", 0x64304073#64, 0xfff0707f#64, .opcode, insnDref ||| insn2Byte⟩,
  ⟨"hlv.w", 0, .h, "d,0(s)", 0x68004073#64, 0xfff0707f#64, .opcode, insnDref ||| insn4Byte⟩,
  ⟨"hlv.wu", 64, .h, "d,0(s)", 0x68104073#64, 0xfff0707f#64, .opcode, insnDref ||| insn4Byte⟩,
  ⟨"hlvx.wu", 0, .h, "d,0(s)", 0x68304073#64, 0xfff0707f#64, .opcode, insnDref ||| insn4Byte⟩,
  ⟨"hlv.d", 64, .h, "d,0(s)", 0x6c004073#64, 0xfff0707f#64, .opcode, insnDref ||| insn8Byte⟩,
  ⟨"hsv.b", 0, .h, "t,0(s)", 0x62004073#64, 0xfe007fff#64, .opcode, insnDref ||| insn1Byte⟩,
  ⟨"hsv.h", 0, .h, "t,0(s)", 0x66004073#64, 0xfe007fff#64, .opcode, insnDref ||| insn2Byte⟩,
  ⟨"hsv.w", 0, .h, "t,0(s)", 0x6a004073#64, 0xfe007fff#64, .opcode, insnDref ||| insn4Byte⟩,
  ⟨"hsv.d", 64, .h, "t,0(s)", 0x6e004073#64, 0xfe007fff#64, .opcode, insnDref ||| insn8Byte⟩]

/-- CORE-V instructions. -/
def coreVInsns : List RiscvOpcodeRow := [
  ⟨"cv.mac", 0, .xcvmac, "d,s,t", 0x9000302b#64, 0xfe00707f#64, .opcode, 0⟩,
  ⟨"cv.msu", 0, .xcvmac, "d,s,t", 0x9200302b#64, 0xfe00707f#64, .opcode, 0⟩,
  ⟨"cv.mulsn", 0, .xcvmac, "d,s,t,Xc3", 0x405b#64, 0xc000707f#64, .opcode, 0⟩,
  ⟨"cv.muls", 0, .xcvmac, "d,s,t", 0x405b#64, 0xfe00707f#64, .opcode, insnAlias⟩,
  ⟨"cv.mulsrn", 0, .xcvmac, "d,s,t,Xc3", 0x8000405b#64, 0xc000707f#64, .opcode, 0⟩,
  ⟨"cv.mulhhsn", 0, .xcvmac, "d,s,t,Xc3", 0x4000405b#64, 0xc000707f#64, .opcode, 0⟩,
  ⟨"cv.mulhhs", 0, .xcvmac, "d,s,t", 0x4000405b#64, 0xfe00707f#64, .opcode, insnAlias⟩,
  ⟨"cv.mulhhsrn", 0, .xcvmac, "d,s,t,Xc3", 0xc000405b#64, 0xc000707f#64, .opcode, 0⟩,
  ⟨"cv.mulun", 0, .xcvmac, "d,s,t,Xc3", 0x505b#64, 0xc000707f#64, .opcode, 0⟩,
  ⟨"cv.mulu", 0, .xcvmac, "d,s,t", 0x505b#64, 0xfe00707f#64, .opcode, insnAlias⟩,
  ⟨"cv.mulurn", 0, .xcvmac, "d,s,t,Xc3", 0x8000505b#64, 0xc000707f#64, .opcode, 0⟩,
  ⟨"cv.mulhhun", 0, .xcvmac, "d,s,t,Xc3", 0x4000505b#64, 0xc000707f#64, .opcode, 0⟩,
  ⟨"cv.mulhhu", 0, .xcvmac, "d,s,t", 0x4000505b#64, 0xfe00707f#64, .opcode, insnAlias⟩,
  ⟨"cv.mulhhurn", 0, .xcvmac, "d,s,t,Xc3", 0xc000505b#64, 0xc000707f#64, .opcode, 0⟩,
  ⟨"cv.macsn", 0, .xcvmac, "d,s,t,Xc3", 0x605b#64, 0xc000707f#64, .opcode, 0⟩,
  ⟨"cv.machhsn", 0, .xcvmac, "d,s,t,Xc3", 0x4000605b#64, 0xc000707f#64, .opcode, 0⟩,
  ⟨"cv.macsrn", 0, .xcvmac, "d,s,t,Xc3", 0x8000605b#64, 0xc000707f#64, .opcode, 0⟩,
  ⟨"cv.machhsrn", 0, .xcvmac, "d,s,t,Xc3", 0xc000605b#64, 0xc000707f#64, .opcode, 0⟩,
  ⟨"cv.macun", 0, .xcvmac, "d,s,t,Xc3", 0x705b#64, 0xc000707f#64, .opcode, 0⟩,
  ⟨"cv.machhun", 0, .xcvmac, "d,s,t,Xc3", 0x4000705b#64, 0xc000707f#64, .opcode, 0⟩,
  ⟨"cv.macurn", 0, .xcvmac, "d,s,t,Xc3", 0x8000705b#64, 0xc000707f#64, .opcode, 0⟩,
  ⟨"cv.machhurn", 0, .xcvmac, "d,s,t,Xc3", 0xc000705b#64, 0xc000707f#64, .opcode, 0⟩,
  ⟨"cv.abs", 0, .xcvalu, "d,s", 0x5000302b#64, 0xfff0707f#64, .opcode, 0⟩,
  ⟨"cv.exths", 0, .xcvalu, "d,s", 0x6000302b#64, 0xfff0707f#64, .opcode, 0⟩,
  ⟨"cv.exthz", 0, .xcvalu, "d,s", 0x6200302b#64, 0xfff0707f#64, .opcode, 0⟩,
  ⟨"cv.extbs", 0, .xcvalu, "d,s", 0x6400302b#64, 0xfff0707f#64, .opcode, 0⟩,
  ⟨"cv.extbz", 0, .xcvalu, "d,s", 0x6600302b#64, 0xfff0707f#64, .opcode, 0⟩,
  ⟨"cv.sle", 0, .xcvalu, "d,s,t", 0x5200302b#64, 0xfe00707f#64, .opcode, 0⟩,
  ⟨"cv.slet", 0, .xcvalu, "d,s,t", 0x5200302b#64, 0xfe00707f#64, .opcode, insnAlias⟩,
  ⟨"cv.sleu", 0, .xcvalu, "d,s,t", 0x5400302b#64, 0xfe00707f#64, .opcode, 0⟩,
  ⟨"cv.sletu", 0, .xcvalu, "d,s,t", 0x5400302b#64, 0xfe00707f#64, .opcode, insnAlias⟩,
  ⟨"cv.min", 0, .xcvalu, "d,s,t", 0x5600302b#64, 0xfe00707f#64, .opcode, 0⟩,
  ⟨"cv.minu", 0, .xcvalu, "d,s,t", 0x5800302b#64, 0xfe00707f#64, .opcode, 0⟩,
  ⟨"cv.max", 0, .xcvalu, "d,s,t", 0x5a00302b#64, 0xfe00707f#64, .opcode, 0⟩,
  ⟨"cv.maxu", 0, .xcvalu, "d,s,t", 0x5c00302b#64, 0xfe00707f#64, .opcode, 0⟩,
  ⟨"cv.clip", 0, .xcvalu, "d,s,Xc2", 0x7000302b#64, 0xfe00707f#64, .opcode, 0⟩,
  ⟨"cv.clipu", 0, .xcvalu, "d,s,Xc2", 0x7200302b#64, 0xfe00707f#64, .opcode, 0⟩,
  ⟨"cv.clipr", 0, .xcvalu, "d,s,t", 0x7400302b#64, 0xfe00707f#64, .opcode, 0⟩,
  ⟨"cv.clipur", 0, .xcvalu, "d,s,t", 0x7600302b#64, 0xfe00707f#64, .opcode, 0⟩,
  ⟨"cv.addn", 0, .xcvalu, "d,s,t,Xc3", 0x205b#64, 0xc000707f#64, .opcode, 0⟩,
  ⟨"cv.addun", 0, .xcvalu, "d,s,t,Xc3", 0x4000205b#64, 0xc000707f#64, .opcode, 0⟩,
  ⟨"cv.addunr", 0, .xcvalu, "d,s,t", 0x8200302b#64, 0xfe00707f#64, .opcode, 0⟩,
  ⟨"cv.addrn", 0, .xcvalu, "d,s,t,Xc3", 0x8000205b#64, 0xc000707f#64, .opcode, 0⟩,
  ⟨"cv.addurn", 0, .xcvalu, "d,s,t,Xc3", 0xc000205b#64, 0xc000707f#64, .opcode, 0⟩,
  ⟨"cv.addnr", 0, .xcvalu, "d,s,t", 0x8000302b#64, 0xfe00707f#64, .opcode, 0⟩,
  ⟨"cv.addrnr", 0, .xcvalu, "d,s,t", 0x8400302b#64, 0xfe00707f#64, .opcode, 0⟩,
  ⟨"cv.addurnr", 0, .xcvalu, "d,s,t", 0x8600302b#64, 0xfe00707f#64, .opcode, 0⟩,
  ⟨"cv.subn", 0, .xcvalu, "d,s,t,Xc3", 0x305b#64, 0xc000707f#64, .opcode, 0⟩,
  ⟨"cv.subun", 0, .xcvalu, "d,s,t,Xc3", 0x4000305b#64, 0xc000707f#64, .opcode, 0⟩,
  ⟨"cv.subrn", 0, .xcvalu, "d,s,t,Xc3", 0x8000305b#64, 0xc000707f#64, .opcode, 0⟩,
  ⟨"cv.suburn", 0, .xcvalu, "d,s,t,Xc3", 0xc000305b#64, 0xc000707f#64, .opcode, 0⟩,
  ⟨"cv.subnr", 0, .xcvalu, "d,s,t", 0x8800302b#64, 0xfe00707f#64, .opcode, 0⟩,
  ⟨"cv.subunr", 0, .xcvalu, "d,s,t", 0x8a00302b#64, 0xfe00707f#64, .opcode, 0⟩,
  ⟨"cv.subrnr", 0, .xcvalu, "d,s,t", 0x8c00302b#64, 0xfe00707f#64, .opcode, 0⟩,
  ⟨"cv.suburnr", 0, .xcvalu, "d,s,t", 0x8e00302b#64, 0xfe00707f#64, .opcode, 0⟩]

/-- T-Head instructions. -/
def theadInsns : List RiscvOpcodeRow := [
  ⟨"th.addsl", 0, .xtheadba, "d,s,t,Xtu2@25", 0x100b#64, 0xf800707f#64, .opcode, 0⟩,
  ⟨"th.srri", 0, .xtheadbb, "d,s,Xtu6@20", 0x1000100b#64, 0xfc00707f#64, .opcode, 0⟩,
  ⟨"th.srriw", 64, .xtheadbb, "d,s,Xtu5@20", 0x1400100b#64, 0xfe00707f#64, .opcode, 0⟩,
  ⟨"th.ext", 0, .xtheadbb, "d,s,Xtu6@26,Xtu6@20", 0x200b#64, 0x707f#64, .opcode, 0⟩,
  ⟨"th.extu", 0, .xtheadbb, "d,s,Xtu6@26,Xtu6@20", 0x300b#64, 0x707f#64, .opcode, 0⟩,
  ⟨"th.ff0", 0, .xtheadbb, "d,s", 0x8400100b#64, 0xfff0707f#64, .opcode, 0⟩,
  ⟨"th.ff1", 0, .xtheadbb, "d,s", 0x8600100b#64, 0xfff0707f#64, .opcode, 0⟩,
  ⟨"th.rev", 0, .xtheadbb, "d,s", 0x8200100b#64, 0xfff0707f#64, .opcode, 0⟩,
  ⟨"th.revw", 64, .xtheadbb, "d,s", 0x9000100b#64, 0xfff0707f#64, .opcode, 0⟩,
  ⟨"th.tstnbz", 0, .xtheadbb, "d,s", 0x8000100b#64, 0xfff0707f#64, .opcode, 0⟩,
  ⟨"th.tst", 0, .xtheadbs, "d,s,Xtu6@20", 0x8800100b#64, 0xfc00707f#64, .opcode, 0⟩,
  ⟨"th.dcache.call", 0, .xtheadcmo, "", 0x10000b#64, 0xffffffff#64, .opcode, 0⟩,
  ⟨"th.dcache.ciall", 0, .xtheadcmo, "", 0x30000b#64, 0xffffffff#64, .opcode, 0⟩,
  ⟨"th.dcache.iall", 0, .xtheadcmo, "", 0x20000b#64, 0xffffffff#64, .opcode, 0⟩,
  ⟨"th.dcache.cpa", 0, .xtheadcmo, "s", 0x290000b#64, 0xfff07fff#64, .opcode, 0⟩,
  ⟨"th.dcache.cipa", 0, .xtheadcmo, "s", 0x2b0000b#64, 0xfff07fff#64, .opcode, 0⟩,
  ⟨"th.dcache.ipa", 0, .xtheadcmo, "s", 0x2a0000b#64, 0xfff07fff#64, .opcode, 0⟩,
  ⟨"th.dcache.cva", 0, .xtheadcmo, "s", 0x250000b#64, 0xfff07fff#64, .opcode, 0⟩,
  ⟨"th.dcache.civa", 0, .xtheadcmo, "s", 0x270000b#64, 0xfff07fff#64, .opcode, 0⟩,
  ⟨"th.dcache.iva", 0, .xtheadcmo, "s", 0x260000b#64, 0xfff07fff#64, .opcode, 0⟩,
  ⟨"th.dcache.csw", 0, .xtheadcmo, "s", 0x210000b#64, 0xfff07fff#64, .opcode, 0⟩,
  ⟨"th.dcache.cisw", 0, .xtheadcmo, "s", 0x230000b#64, 0xfff07fff#64, .opcode, 0⟩,
  ⟨"th.dcache.isw", 0, .xtheadcmo, "s", 0x220000b#64, 0xfff07fff#64, .opcode, 0⟩,
  ⟨"th.dcache.cpal1", 0, .xtheadcmo, "s", 0x280000b#64, 0xfff07fff#64, .opcode, 0⟩,
  ⟨"th.dcache.cval1", 0, .xtheadcmo, "s", 0x240000b#64, 0xfff07fff#64, .opcode, 0⟩,
  ⟨"th.icache.iall", 0, .xtheadcmo, "", 0x100000b#64, 0xffffffff#64, .opcode, 0⟩,
  ⟨"th.icache.ialls", 0, .xtheadcmo, "", 0x110000b#64, 0xffffffff#64, .opcode, 0⟩,
  ⟨"th.icache.ipa", 0, .xtheadcmo, "s", 0x380000b#64, 0xfff07fff#64, .opcode, 0⟩,
  ⟨"th.icache.iva", 0, .xtheadcmo, "s", 0x300000b#64, 0xfff07fff#64, .opcode, 0⟩,
  ⟨"th.l2cache.call", 0, .xtheadcmo, "", 0x150000b#64, 0xffffffff#64, .opcode, 0⟩,
  ⟨"th.l2cache.ciall", 0, .xtheadcmo, "", 0x170000b#64, 0xffffffff#64, .opcode, 0⟩,
  ⟨"th.l2cache.iall", 0, .xtheadcmo, "", 0x160000b#64, 0xffffffff#64, .opcode, 0⟩,
  ⟨"th.mveqz", 0, .xtheadcondmov, "d,s,t", 0x4000100b#64, 0xfe00707f#64, .opcode, 0⟩,
  ⟨"th.mvnez", 0, .xtheadcondmov, "d,s,t", 0x4200100b#64, 0xfe00707f#64, .opcode, 0⟩,
  ⟨"th.flrd", 0, .xtheadfmemidx, "D,s,t,Xtu2@25", 0x6000600b#64, 0xf800707f#64, .opcode, 0⟩,
  ⟨"th.flrw", 0, .xtheadfmemidx, "D,s,t,Xtu2@25", 0x4000600b#64, 0xf800707f#64, .opcode, 0⟩,
  ⟨"th.flurd", 0, .xtheadfmemidx, "D,s,t,Xtu2@25", 0x7000600b#64, 0xf800707f#64, .opcode, 0⟩,
  ⟨"th.flurw", 0, .xtheadfmemidx, "D,s,t,Xtu2@25", 0x5000600b#64, 0xf800707f#64, .opcode, 0⟩,
  ⟨"th.fsrd", 0, .xtheadfmemidx, "D,s,t,Xtu2@25", 0x6000700b#64, 0xf800707f#64, .opcode, 0⟩,
  ⟨"th.fsrw", 0, .xtheadfmemidx, "D,s,t,Xtu2@25", 0x4000700b#64, 0xf800707f#64, .opcode, 0⟩,
  ⟨"th.fsurd", 0, .xtheadfmemidx, "D,s,t,Xtu2@25", 0x7000700b#64, 0xf800707f#64, .opcode, 0⟩,
  ⟨"th.fsurw", 0, .xtheadfmemidx, "D,s,t,Xtu2@25", 0x5000700b#64, 0xf800707f#64, .opcode, 0⟩,
  ⟨"th.fmv.hw.x", 32, .xtheadfmv, "D,s", 0xa000100b#64, 0xfff0707f#64, .opcode, 0⟩,
  ⟨"th.fmv.x.hw", 32, .xtheadfmv, "d,S", 0xc000100b#64, 0xfff0707f#64, .opcode, 0⟩,
  ⟨"th.ipop", 0, .xtheadint, "", 0x50000b#64, 0xffffffff#64, .opcode, 0⟩,
  ⟨"th.ipush", 0, .xtheadint, "", 0x40000b#64, 0xffffffff#64, .opcode, 0⟩,
  ⟨"th.ldia", 64, .xtheadmemidx, "d,(s),Xts5@20,Xtu2@25", 0x7800400b#64, 0xf800707f#64, .thLoadInc, 0⟩,
  ⟨"th.ldib", 64, .xtheadmemidx, "d,(s),Xts5@20,Xtu2@25", 0x6800400b#64, 0xf800707f#64, .thLoadInc, 0⟩,
  ⟨"th.lwia", 0, .xtheadmemidx, "d,(s),Xts5@20,Xtu2@25", 0x5800400b#64, 0xf800707f#64, .thLoadInc, 0⟩,
  ⟨"th.lwib", 0, .xtheadmemidx, "d,(s),Xts5@20,Xtu2@25", 0x4800400b#64, 0xf800707f#64, .thLoadInc, 0⟩,
  ⟨"th.lwuia", 64, .xtheadmemidx, "d,(s),Xts5@20,Xtu2@25", 0xd800400b#64, 0xf800707f#64, .thLoadInc, 0⟩,
  ⟨"th.lwuib", 64, .xtheadmemidx, "d,(s),Xts5@20,Xtu2@25", 0xc800400b#64, 0xf800707f#64, .thLoadInc, 0⟩,
  ⟨"th.lhia", 0, .xtheadmemidx, "d,(s),Xts5@20,Xtu2@25", 0x3800400b#64, 0xf800707f#64, .thLoadInc, 0⟩,
  ⟨"th.lhib", 0, .xtheadmemidx, "d,(s),Xts5@20,Xtu2@25", 0x2800400b#64, 0xf800707f#64, .thLoadInc, 0⟩,
  ⟨"th.lhuia", 0, .xtheadmemidx, "d,(s),Xts5@20,Xtu2@25", 0xb800400b#64, 0xf800707f#64, .thLoadInc, 0⟩,
  ⟨"th.lhuib", 0, .xtheadmemidx, "d,(s),Xts5@20,Xtu2@25", 0xa800400b#64, 0xf800707f#64, .thLoadInc, 0⟩,
  ⟨"th.lbia", 0, .xtheadmemidx, "d,(s),Xts5@20,Xtu2@25", 0x1800400b#64, 0xf800707f#64, .thLoadInc, 0⟩,
  ⟨"th.lbib", 0, .xtheadmemidx, "d,(s),Xts5@20,Xtu2@25", 0x800400b#64, 0xf800707f#64, .thLoadInc, 0⟩,
  ⟨"th.lbuia", 0, .xtheadmemidx, "d,(s),Xts5@20,Xtu2@25", 0x9800400b#64, 0xf800707f#64, .thLoadInc, 0⟩,
  ⟨"th.lbuib", 0, .xtheadmemidx, "d,(s),Xts5@20,Xtu2@25", 0x8800400b#64, 0xf800707f#64, .thLoadInc, 0⟩,
  ⟨"th.sdia", 64, .xtheadmemidx, "d,(s),Xts5@20,Xtu2@25", 0x7800500b#64, 0xf800707f#64, .opcode, 0⟩,
  ⟨"th.sdib", 64, .xtheadmemidx, "d,(s),Xts5@20,Xtu2@25", 0x6800500b#64, 0xf800707f#64, .opcode, 0⟩,
  ⟨"th.swia", 0, .xtheadmemidx, "d,(s),Xts5@20,Xtu2@25", 0x5800500b#64, 0xf800707f#64, .opcode, 0⟩,
  ⟨"th.swib", 0, .xtheadmemidx, "d,(s),Xts5@20,Xtu2@25", 0x4800500b#64, 0xf800707f#64, .opcode, 0⟩,
  ⟨"th.shia", 0, .xtheadmemidx, "d,(s),Xts5@20,Xtu2@25", 0x3800500b#64, 0xf800707f#64, .opcode, 0⟩,
  ⟨"th.shib", 0, .xtheadmemidx, "d,(s),Xts5@20,Xtu2@25", 0x2800500b#64, 0xf800707f#64, .opcode, 0⟩,
  ⟨"th.sbia", 0, .xtheadmemidx, "d,(s),Xts5@20,Xtu2@25", 0x1800500b#64, 0xf800707f#64, .opcode, 0⟩,
  ⟨"th.sbib", 0, .xtheadmemidx, "d,(s),Xts5@20,Xtu2@25", 0x800500b#64, 0xf800707f#64, .opcode, 0⟩,
  ⟨"th.lrd", 64, .xtheadmemidx, "d,s,t,Xtu2@25", 0x6000400b#64, 0xf800707f#64, .opcode, 0⟩,
  ⟨"th.lrw", 0, .xtheadmemidx, "d,s,t,Xtu2@25", 0x4000400b#64, 0xf800707f#64, .opcode, 0⟩,
  ⟨"th.lrwu", 64, .xtheadmemidx, "d,s,t,Xtu2@25", 0xc000400b#64, 0xf800707f#64, .opcode, 0⟩,
  ⟨"th.lrh", 0, .xtheadmemidx, "d,s,t,Xtu2@25", 0x2000400b#64, 0xf800707f#64, .opcode, 0⟩,
  ⟨"th.lrhu", 0, .xtheadmemidx, "d,s,t,Xtu2@25", 0xa000400b#64, 0xf800707f#64, .opcode, 0⟩,
  ⟨"th.lrb", 0, .xtheadmemidx, "d,s,t,Xtu2@25", 0x400b#64, 0xf800707f#64, .opcode, 0⟩,
  ⟨"th.lrbu", 0, .xtheadmemidx, "d,s,t,Xtu2@25", 0x8000400b#64, 0xf800707f#64, .opcode, 0⟩,
  ⟨"th.srd", 64, .xtheadmemidx, "d,s,t,Xtu2@25", 0x6000500b#64, 0xf800707f#64, .opcode, 0⟩,
  ⟨"th.srw", 0, .xtheadmemidx, "d,s,t,Xtu2@25", 0x4000500b#64, 0xf800707f#64, .opcode, 0⟩,
  ⟨"th.srh", 0, .xtheadmemidx, "d,s,t,Xtu2@25", 0x2000500b#64, 0xf800707f#64, .opcode, 0⟩,
  ⟨"th.srb", 0, .xtheadmemidx, "d,s,t,Xtu2@25", 0x500b#64, 0xf800707f#64, .opcode, 0⟩,
  ⟨"th.lurd", 64, .xtheadmemidx, "d,s,t,Xtu2@25", 0x7000400b#64, 0xf800707f#64, .opcode, 0⟩,
  ⟨"th.lurw", 0, .xtheadmemidx, "d,s,t,Xtu2@25", 0x5000400b#64, 0xf800707f#64, .opcode, 0⟩,
  ⟨"th.lurwu", 64, .xtheadmemidx, "d,s,t,Xtu2@25", 0xd000400b#64, 0xf800707f#64, .opcode, 0⟩,
  ⟨"th.lurh", 0, .xtheadmemidx, "d,s,t,Xtu2@25", 0x3000400b#64, 0xf800707f#64, .opcode, 0⟩,
  ⟨"th.lurhu", 0, .xtheadmemidx, "d,s,t,Xtu2@25", 0xb000400b#64, 0xf800707f#64, .opcode, 0⟩,
  ⟨"th.lurb", 0, .xtheadmemidx, "d,s,t,Xtu2@25", 0x1000400b#64, 0xf800707f#64, .opcode, 0⟩,
  ⟨"th.lurbu", 0, .xtheadmemidx, "d,s,t,Xtu2@25", 0x9000400b#64, 0xf800707f#64, .opcode, 0⟩,
  ⟨"th.surd", 64, .xtheadmemidx, "d,s,t,Xtu2@25", 0x7000500b#64, 0xf800707f#64, .opcode, 0⟩,
  ⟨"th.surw", 0, .xtheadmemidx, "d,s,t,Xtu2@25", 0x5000500b#64, 0xf800707f#64, .opcode, 0⟩,
  ⟨"th.surh", 0, .xtheadmemidx, "d,s,t,Xtu2@25", 0x3000500b#64, 0xf800707f#64, .opcode, 0⟩,
  ⟨"th.surb", 0, .xtheadmemidx, "d,s,t,Xtu2@25", 0x1000500b#64, 0xf800707f#64, .opcode, 0⟩,
  ⟨"th.ldd", 64, .xtheadmempair, "d,t,(s),Xtu2@25,Xtl4", 0xf800400b#64, 0xf800707f#64, .thLoadPair, 0⟩,
  ⟨"th.lwd", 0, .xtheadmempair, "d,t,(s),Xtu2@25,Xtl3", 0xe000400b#64, 0xf800707f#64, .thLoadPair, 0⟩,
  ⟨"th.lwud", 0, .xtheadmempair, "d,t,(s),Xtu2@25,Xtl3", 0xf000400b#64, 0xf800707f#64, .thLoadPair, 0⟩,
  ⟨"th.sdd", 64, .xtheadmempair, "d,t,(s),Xtu2@25,Xtl4", 0xf800500b#64, 0xf800707f#64, .opcode, 0⟩,
  ⟨"th.swd", 0, .xtheadmempair, "d,t,(s),Xtu2@25,Xtl3", 0xe000500b#64, 0xf800707f#64, .opcode, 0⟩,
  ⟨"th.mula", 0, .xtheadmac, "d,s,t", 0x2000100b#64, 0xfe00707f#64, .opcode, 0⟩,
  ⟨"th.mulah", 0, .xtheadmac, "d,s,t", 0x2800100b#64, 0xfe00707f#64, .opcode, 0⟩,
  ⟨"th.mulaw", 64, .xtheadmac, "d,s,t", 0x2400100b#64, 0xfe00707f#64, .opcode, 0⟩,
  ⟨"th.muls", 0, .xtheadmac, "d,s,t", 0x2200100b#64, 0xfe00707f#64, .opcode, 0⟩,
  ⟨"th.mulsh", 0, .xtheadmac, "d,s,t", 0x2a00100b#64, 0xfe00707f#64, .opcode, 0⟩,
  ⟨"th.mulsw", 64, .xtheadmac, "d,s,t", 0x2600100b#64, 0xfe00707f#64, .opcode, 0⟩,
  ⟨"th.sfence.vmas", 0, .xtheadsync, "s,t", 0x400000b#64, 0xfe007fff#64, .opcode, 0⟩,
  ⟨"th.sync", 0, .xtheadsync, "", 0x180000b#64, 0xffffffff#64, .opcode, 0⟩,
  ⟨"th.sync.i", 0, .xtheadsync, "", 0x1a0000b#64, 0xffffffff#64, .opcode, 0⟩,
  ⟨"th.sync.is", 0, .xtheadsync, "", 0x1b0000b#64, 0xffffffff#64, .opcode, 0⟩,
  ⟨"th.sync.s", 0, .xtheadsync, "", 0x190000b#64, 0xffffffff#64, .opcode, 0⟩]

/-- XTheadVector instructions. -/
def theadVectorInsns1 : List RiscvOpcodeRow := [
  ⟨"th.vsetvl", 0, .xtheadvector, "d,s,t", 0x80007057#64, 0xfe00707f#64, .opcode, 0⟩,
  ⟨"th.vsetvli", 0, .xtheadvector, "d,s,XtVc", 0x7057#64, 0x8000707f#64, .opcode, 0⟩,
  ⟨"th.vlb.v", 0, .xtheadvector, "Vd,0(s)Vm", 0x10000007#64, 0xfdf0707f#64, .opcode, insnDref⟩,
  ⟨"th.vlh.v", 0, .xtheadvector, "Vd,0(s)Vm", 0x10005007#64, 0xfdf0707f#64, .opcode, insnDref⟩,
  ⟨"th.vlw.v", 0, .xtheadvector, "Vd,0(s)Vm", 0x10006007#64, 0xfdf0707f#64, .opcode, insnDref⟩,
  ⟨"th.vlbu.v", 0, .xtheadvector, "Vd,0(s)Vm", 0x7#64, 0xfdf0707f#64, .opcode, insnDref⟩,
  ⟨"th.vlhu.v", 0, .xtheadvector, "Vd,0(s)Vm", 0x5007#64, 0xfdf0707f#64, .opcode, insnDref⟩,
  ⟨"th.vlwu.v", 0, .xtheadvector, "Vd,0(s)Vm", 0x6007#64, 0xfdf0707f#64, .opcode, insnDref⟩,
  ⟨"th.vle.v", 0, .xtheadvector, "Vd,0(s)Vm", 0x7007#64, 0xfdf0707f#64, .opcode, insnDref⟩,
  ⟨"th.vsb.v", 0, .xtheadvector, "Vd,0(s)Vm", 0x27#64, 0xfdf0707f#64, .opcode, insnDref⟩,
  ⟨"th.vsh.v", 0, .xtheadvector, "Vd,0(s)Vm", 0x5027#64, 0xfdf0707f#64, .opcode, insnDref⟩,
  ⟨"th.vsw.v", 0, .xtheadvector, "Vd,0(s)Vm", 0x6027#64, 0xfdf0707f#64, .opcode, insnDref⟩,
  ⟨"th.vse.v", 0, .xtheadvector, "Vd,0(s)Vm", 0x7027#64, 0xfdf0707f#64, .opcode, insnDref⟩,
  ⟨"th.vlsb.v", 0, .xtheadvector, "Vd,0(s),tVm", 0x18000007#64, 0xfc00707f#64, .opcode, insnDref⟩,
  ⟨"th.vlsh.v", 0, .xtheadvector, "Vd,0(s),tVm", 0x18005007#64, 0xfc00707f#64, .opcode, insnDref⟩,
  ⟨"th.vlsw.v", 0, .xtheadvector, "Vd,0(s),tVm", 0x18006007#64, 0xfc00707f#64, .opcode, insnDref⟩,
  ⟨"th.vlsbu.v", 0, .xtheadvector, "Vd,0(s),tVm", 0x8000007#64, 0xfc00707f#64, .opcode, insnDref⟩,
  ⟨"th.vlshu.v", 0, .xtheadvector, "Vd,0(s),tVm", 0x8005007#64, 0xfc00707f#64, .opcode, insnDref⟩,
  ⟨"th.vlswu.v", 0, .xtheadvector, "Vd,0(s),tVm", 0x8006007#64, 0xfc00707f#64, .opcode, insnDref⟩,
  ⟨"th.vlse.v", 0, .xtheadvector, "Vd,0(s),tVm", 0x8007007#64, 0xfc00707f#64, .opcode, insnDref⟩,
  ⟨"th.vssb.v", 0, .xtheadvector, "Vd,0(s),tVm", 0x8000027#64, 0xfc00707f#64, .opcode, insnDref⟩,
  ⟨"th.vssh.v", 0, .xtheadvector, "Vd,0(s),tVm", 0x8005027#64, 0xfc00707f#64, .opcode, insnDref⟩,
  ⟨"th.vssw.v", 0, .xtheadvector, "Vd,0(s),tVm", 0x8006027#64, 0xfc00707f#64, .opcode, insnDref⟩,
  ⟨"th.vsse.v", 0, .xtheadvector, "Vd,0(s),tVm", 0x8007027#64, 0xfc00707f#64, .opcode, insnDref⟩,
  ⟨"th.vlxb.v", 0, .xtheadvector, "Vd,0(s),VtVm", 0x1c000007#64, 0xfc00707f#64, .opcode, insnDref⟩,
  ⟨"th.vlxh.v", 0, .xtheadvector, "Vd,0(s),VtVm", 0x1c005007#64, 0xfc00707f#64, .opcode, insnDref⟩,
  ⟨"th.vlxw.v", 0, .xtheadvector, "Vd,0(s),VtVm", 0x1c006007#64, 0xfc00707f#64, .opcode, insnDref⟩,
  ⟨"th.vlxbu.v", 0, .xtheadvector, "Vd,0(s),VtVm", 0xc000007#64, 0xfc00707f#64, .opcode, insnDref⟩,
  ⟨"th.vlxhu.v", 0, .xtheadvector, "Vd,0(s),VtVm", 0xc005007#64, 0xfc00707f#64, .opcode, insnDref⟩,
  ⟨"th.vlxwu.v", 0, .xtheadvector, "Vd,0(s),VtVm", 0xc006007#64, 0xfc00707f#64, .opcode, insnDref⟩,
  ⟨"th.vlxe.v", 0, .xtheadvector, "Vd,0(s),VtVm", 0xc007007#64, 0xfc00707f#64, .opcode, insnDref⟩,
  ⟨"th.vsxb.v", 0, .xtheadvector, "Vd,0(s),VtVm", 0xc000027#64, 0xfc00707f#64, .opcode, insnDref⟩,
  ⟨"th.vsxh.v", 0, .xtheadvector, "Vd,0(s),VtVm", 0xc005027#64, 0xfc00707f#64, .opcode, insnDref⟩,
  ⟨"th.vsxw.v", 0, .xtheadvector, "Vd,0(s),VtVm", 0xc006027#64, 0xfc00707f#64, .opcode, insnDref⟩,
  ⟨"th.vsxe.v", 0, .xtheadvector, "Vd,0(s),VtVm", 0xc007027#64, 0xfc00707f#64, .opcode, insnDref⟩,
  ⟨"th.vsuxb.v", 0, .xtheadvector, "Vd,0(s),VtVm", 0x1c000027#64, 0xfc00707f#64, .opcode, insnDref⟩,
  ⟨"th.vsuxh.v", 0, .xtheadvector, "Vd,0(s),VtVm", 0x1c005027#64, 0xfc00707f#64, .opcode, insnDref⟩,
  ⟨"th.vsuxw.v", 0, .xtheadvector, "Vd,0(s),VtVm", 0x1c006027#64, 0xfc00707f#64, .opcode, insnDref⟩,
  ⟨"th.vsuxe.v", 0, .xtheadvector, "Vd,0(s),VtVm", 0x1c007027#64, 0xfc00707f#64, .opcode, insnDref⟩,
  ⟨"th.vlbff.v", 0, .xtheadvector, "Vd,0(s)Vm", 0x11000007#64, 0xfdf0707f#64, .opcode, insnDref⟩,
  ⟨"th.vlhff.v", 0, .xtheadvector, "Vd,0(s)Vm", 0x11005007#64, 0xfdf0707f#64, .opcode, insnDref⟩,
  ⟨"th.vlwff.v", 0, .xtheadvector, "Vd,0(s)Vm", 0x11006007#64, 0xfdf0707f#64, .opcode, insnDref⟩,
  ⟨"th.vlbuff.v", 0, .xtheadvector, "Vd,0(s)Vm", 0x1000007#64, 0xfdf0707f#64, .opcode, insnDref⟩,
  ⟨"th.vlhuff.v", 0, .xtheadvector, "Vd,0(s)Vm", 0x1005007#64, 0xfdf0707f#64, .opcode, insnDref⟩,
  ⟨"th.vlwuff.v", 0, .xtheadvector, "Vd,0(s)Vm", 0x1006007#64, 0xfdf0707f#64, .opcode, insnDref⟩,
  ⟨"th.vleff.v", 0, .xtheadvector, "Vd,0(s)Vm", 0x1007007#64, 0xfdf0707f#64, .opcode, insnDref⟩,
  ⟨"th.vlseg2b.v", 0, .xtheadvector, "Vd,0(s)Vm", 0x30000007#64, 0xfdf0707f#64, .opcode, insnDref⟩,
  ⟨"th.vlseg2h.v", 0, .xtheadvector, "Vd,0(s)Vm", 0x30005007#64, 0xfdf0707f#64, .opcode, insnDref⟩,
  ⟨"th.vlseg2w.v", 0, .xtheadvector, "Vd,0(s)Vm", 0x30006007#64, 0xfdf0707f#64, .opcode, insnDref⟩,
  ⟨"th.vlseg2bu.v", 0, .xtheadvector, "Vd,0(s)Vm", 0x20000007#64, 0xfdf0707f#64, .opcode, insnDref⟩,
  ⟨"th.vlseg2hu.v", 0, .xtheadvector, "Vd,0(s)Vm", 0x20005007#64, 0xfdf0707f#64, .opcode, insnDref⟩,
  ⟨"th.vlseg2wu.v", 0, .xtheadvector, "Vd,0(s)Vm", 0x20006007#64, 0xfdf0707f#64, .opcode, insnDref⟩,
  ⟨"th.vlseg2e.v", 0, .xtheadvector, "Vd,0(s)Vm", 0x20007007#64, 0xfdf0707f#64, .opcode, insnDref⟩,
  ⟨"th.vsseg2b.v", 0, .xtheadvector, "Vd,0(s)Vm", 0x20000027#64, 0xfdf0707f#64, .opcode, insnDref⟩,
  ⟨"th.vsseg2h.v", 0, .xtheadvector, "Vd,0(s)Vm", 0x20005027#64, 0xfdf0707f#64, .opcode, insnDref⟩,
  ⟨"th.vsseg2w.v", 0, .xtheadvector, "Vd,0(s)Vm", 0x20006027#64, 0xfdf0707f#64, .opcode, insnDref⟩,
  ⟨"th.vsseg2e.v", 0, .xtheadvector, "Vd,0(s)Vm", 0x20007027#64, 0xfdf0707f#64, .opcode, insnDref⟩,
  ⟨"th.vlseg3b.v", 0, .xtheadvector, "Vd,0(s)Vm", 0x50000007#64, 0xfdf0707f#64, .opcode, insnDref⟩,
  ⟨"th.vlseg3h.v", 0, .xtheadvector, "Vd,0(s)Vm", 0x50005007#64, 0xfdf0707f#64, .opcode, insnDref⟩,
  ⟨"th.vlseg3w.v", 0, .xtheadvector, "Vd,0(s)Vm", 0x50006007#64, 0xfdf0707f#64, .opcode, insnDref⟩,
  ⟨"th.vlseg3bu.v", 0, .xtheadvector, "Vd,0(s)Vm", 0x40000007#64, 0xfdf0707f#64, .opcode, insnDref⟩,
  ⟨"th.vlseg3hu.v", 0, .xtheadvector, "Vd,0(s)Vm", 0x40005007#64, 0xfdf0707f#64, .opcode, insnDref⟩,
  ⟨"th.vlseg3wu.v", 0, .xtheadvector, "Vd,0(s)Vm", 0x40006007#64, 0xfdf0707f#64, .opcode, insnDref⟩,
  ⟨"th.vlseg3e.v", 0, .xtheadvector, "Vd,0(s)Vm", 0x40007007#64, 0xfdf0707f#64, .opcode, insnDref⟩,
  ⟨"th.vsseg3b.v", 0, .xtheadvector, "Vd,0(s)Vm", 0x40000027#64, 0xfdf0707f#64, .opcode, insnDref⟩,
  ⟨"th.vsseg3h.v", 0, .xtheadvector, "Vd,0(s)Vm", 0x40005027#64, 0xfdf0707f#64, .opcode, insnDref⟩,
  ⟨"th.vsseg3w.v", 0, .xtheadvector, "Vd,0(s)Vm", 0x40006027#64, 0xfdf0707f#64, .opcode, insnDref⟩,
  ⟨"th.vsseg3e.v", 0, .xtheadvector, "Vd,0(s)Vm", 0x40007027#64, 0xfdf0707f#64, .opcode, insnDref⟩,
  ⟨"th.vlseg4b.v", 0, .xtheadvector, "Vd,0(s)Vm", 0x70000007#64, 0xfdf0707f#64, .opcode, insnDref⟩,
  ⟨"th.vlseg4h.v", 0, .xtheadvector, "Vd,0(s)Vm", 0x70005007#64, 0xfdf0707f#64, .opcode, insnDref⟩,
  ⟨"th.vlseg4w.v", 0, .xtheadvector, "Vd,0(s)Vm", 0x70006007#64, 0xfdf0707f#64, .opcode, insnDref⟩,
  ⟨"th.vlseg4bu.v", 0, .xtheadvector, "Vd,0(s)Vm", 0x60000007#64, 0xfdf0707f#64, .opcode, insnDref⟩,
  ⟨"th.vlseg4hu.v", 0, .xtheadvector, "Vd,0(s)Vm", 0x60005007#64, 0xfdf0707f#64, .opcode, insnDref⟩,
  ⟨"th.vlseg4wu.v", 0, .xtheadvector, "Vd,0(s)Vm", 0x60006007#64, 0xfdf0707f#64, .opcode, insnDref⟩,
  ⟨"th.vlseg4e.v", 0, .xtheadvector, "Vd,0(s)Vm", 0x60007007#64, 0xfdf0707f#64, .opcode, insnDref⟩,
  ⟨"th.vsseg4b.v", 0, .xtheadvector, "Vd,0(s)Vm", 0x60000027#64, 0xfdf0707f#64, .opcode, insnDref⟩,
  ⟨"th.vsseg4h.v", 0, .xtheadvector, "Vd,0(s)Vm", 0x60005027#64, 0xfdf0707f#64, .opcode, insnDref⟩,
  ⟨"th.vsseg4w.v", 0, .xtheadvector, "Vd,0(s)Vm", 0x60006027#64, 0xfdf0707f#64, .opcode, insnDref⟩,
  ⟨"th.vsseg4e.v", 0, .xtheadvector, "Vd,0(s)Vm", 0x60007027#64, 0xfdf0707f#64, .opcode, insnDref⟩,
  ⟨"th.vlseg5b.v", 0, .xtheadvector, "Vd,0(s)Vm", 0x90000007#64, 0xfdf0707f#64, .opcode, insnDref⟩,
  ⟨"th.vlseg5h.v", 0, .xtheadvector, "Vd,0(s)Vm", 0x90005007#64, 0xfdf0707f#64, .opcode, insnDref⟩,
  ⟨"th.vlseg5w.v", 0, .xtheadvector, "Vd,0(s)Vm", 0x90006007#64, 0xfdf0707f#64, .opcode, insnDref⟩,
  ⟨"th.vlseg5bu.v", 0, .xtheadvector, "Vd,0(s)Vm", 0x80000007#64, 0xfdf0707f#64, .opcode, insnDref⟩,
  ⟨"th.vlseg5hu.v", 0, .xtheadvector, "Vd,0(s)Vm", 0x80005007#64, 0xfdf0707f#64, .opcode, insnDref⟩,
  ⟨"th.vlseg5wu.v", 0, .xtheadvector, "Vd,0(s)Vm", 0x80006007#64, 0xfdf0707f#64, .opcode, insnDref⟩,
  ⟨"th.vlseg5e.v", 0, .xtheadvector, "Vd,0(s)Vm", 0x80007007#64, 0xfdf0707f#64, .opcode, insnDref⟩,
  ⟨"th.vsseg5b.v", 0, .xtheadvector, "Vd,0(s)Vm", 0x80000027#64, 0xfdf0707f#64, .opcode, insnDref⟩,
  ⟨"th.vsseg5h.v", 0, .xtheadvector, "Vd,0(s)Vm", 0x80005027#64, 0xfdf0707f#64, .opcode, insnDref⟩,
  ⟨"th.vsseg5w.v", 0, .xtheadvector, "Vd,0(s)Vm", 0x80006027#64, 0xfdf0707f#64, .opcode, insnDref⟩,
  ⟨"th.vsseg5e.v", 0, .xtheadvector, "Vd,0(s)Vm", 0x80007027#64, 0xfdf0707f#64, .opcode, insnDref⟩,
  ⟨"th.vlseg6b.v", 0, .xtheadvector, "Vd,0(s)Vm", 0xb0000007#64, 0xfdf0707f#64, .opcode, insnDref⟩,
  ⟨"th.vlseg6h.v", 0, .xtheadvector, "Vd,0(s)Vm", 0xb0005007#64, 0xfdf0707f#64, .opcode, insnDref⟩,
  ⟨"th.vlseg6w.v", 0, .xtheadvector, "Vd,0(s)Vm", 0xb0006007#64, 0xfdf0707f#64, .opcode, insnDref⟩,
  ⟨"th.vlseg6bu.v", 0, .xtheadvector, "Vd,0(s)Vm", 0xa0000007#64, 0xfdf0707f#64, .opcode, insnDref⟩,
  ⟨"th.vlseg6hu.v", 0, .xtheadvector, "Vd,0(s)Vm", 0xa0005007#64, 0xfdf0707f#64, .opcode, insnDref⟩,
  ⟨"th.vlseg6wu.v", 0, .xtheadvector, "Vd,0(s)Vm", 0xa0006007#64, 0xfdf0707f#64, .opcode, insnDref⟩,
  ⟨"th.vlseg6e.v", 0, .xtheadvector, "Vd,0(s)Vm", 0xa0007007#64, 0xfdf0707f#64, .opcode, insnDref⟩,
  ⟨"th.vsseg6b.v", 0, .xtheadvector, "Vd,0(s)Vm", 0xa0000027#64, 0xfdf0707f#64, .opcode, insnDref⟩,
  ⟨"th.vsseg6h.v", 0, .xtheadvector, "Vd,0(s)Vm", 0xa0005027#64, 0xfdf0707f#64, .opcode, insnDref⟩,
  ⟨"th.vsseg6w.v", 0, .xtheadvector, "Vd,0(s)Vm", 0xa0006027#64, 0xfdf0707f#64, .opcode, insnDref⟩,
  ⟨"th.vsseg6e.v", 0, .xtheadvector, "Vd,0(s)Vm", 0xa0007027#64, 0xfdf0707f#64, .opcode, insnDref⟩,
  ⟨"th.vlseg7b.v", 0, .xtheadvector, "Vd,0(s)Vm", 0xd0000007#64, 0xfdf0707f#64, .opcode, insnDref⟩,
  ⟨"th.vlseg7h.v", 0, .xtheadvector, "Vd,0(s)Vm", 0xd0005007#64, 0xfdf0707f#64, .opcode, insnDref⟩,
  ⟨"th.vlseg7w.v", 0, .xtheadvector, "Vd,0(s)Vm", 0xd0006007#64, 0xfdf0707f#64, .opcode, insnDref⟩,
  ⟨"th.vlseg7bu.v", 0, .xtheadvector, "Vd,0(s)Vm", 0xc0000007#64, 0xfdf0707f#64, .opcode, insnDref⟩,
  ⟨"th.vlseg7hu.v", 0, .xtheadvector, "Vd,0(s)Vm", 0xc0005007#64, 0xfdf0707f#64, .opcode, insnDref⟩,
  ⟨"th.vlseg7wu.v", 0, .xtheadvector, "Vd,0(s)Vm", 0xc0006007#64, 0xfdf0707f#64, .opcode, insnDref⟩,
  ⟨"th.vlseg7e.v", 0, .xtheadvector, "Vd,0(s)Vm", 0xc0007007#64, 0xfdf0707f#64, .opcode, insnDref⟩,
  ⟨"th.vsseg7b.v", 0, .xtheadvector, "Vd,0(s)Vm", 0xc0000027#64, 0xfdf0707f#64, .opcode, insnDref⟩,
  ⟨"th.vsseg7h.v", 0, .xtheadvector, "Vd,0(s)Vm", 0xc0005027#64, 0xfdf0707f#64, .opcode, insnDref⟩,
  ⟨"th.vsseg7w.v", 0, .xtheadvector, "Vd,0(s)Vm", 0xc0006027#64, 0xfdf0707f#64, .opcode, insnDref⟩,
  ⟨"th.vsseg7e.v", 0, .xtheadvector, "Vd,0(s)Vm", 0xc0007027#64, 0xfdf0707f#64, .opcode, insnDref⟩,
  ⟨"th.vlseg8b.v", 0, .xtheadvector, "Vd,0(s)Vm", 0xf0000007#64, 0xfdf0707f#64, .opcode, insnDref⟩,
  ⟨"th.vlseg8h.v", 0, .xtheadvector, "Vd,0(s)Vm", 0xf0005007#64, 0xfdf0707f#64, .opcode, insnDref⟩,
  ⟨"th.vlseg8w.v", 0, .xtheadvector, "Vd,0(s)Vm", 0xf0006007#64, 0xfdf0707f#64, .opcode, insnDref⟩,
  ⟨"th.vlseg8bu.v", 0, .xtheadvector, "Vd,0(s)Vm", 0xe0000007#64, 0xfdf0707f#64, .opcode, insnDref⟩,
  ⟨"th.vlseg8hu.v", 0, .xtheadvector, "Vd,0(s)Vm", 0xe0005007#64, 0xfdf0707f#64, .opcode, insnDref⟩,
  ⟨"th.vlseg8wu.v", 0, .xtheadvector, "Vd,0(s)Vm", 0xe0006007#64, 0xfdf0707f#64, .opcode, insnDref⟩,
  ⟨"th.vlseg8e.v", 0, .xtheadvector, "Vd,0(s)Vm", 0xe0007007#64, 0xfdf0707f#64, .opcode, insnDref⟩,
  ⟨"th.vsseg8b.v", 0, .xtheadvector, "Vd,0(s)Vm", 0xe0000027#64, 0xfdf0707f#64, .opcode, insnDref⟩,
  ⟨"th.vsseg8h.v", 0, .xtheadvector, "Vd,0(s)Vm", 0xe0005027#64, 0xfdf0707f#64, .opcode, insnDref⟩,
  ⟨"th.vsseg8w.v", 0, .xtheadvector, "Vd,0(s)Vm", 0xe0006027#64, 0xfdf0707f#64, .opcode, insnDref⟩,
  ⟨"th.vsseg8e.v", 0, .xtheadvector, "Vd,0(s)Vm", 0xe0007027#64, 0xfdf0707f#64, .opcode, insnDref⟩,
  ⟨"th.vlsseg2b.v", 0, .xtheadvector, "Vd,0(s),tVm", 0x38000007#64, 0xfc00707f#64, .opcode, insnDref⟩,
  ⟨"th.vlsseg2h.v", 0, .xtheadvector, "Vd,0(s),tVm", 0x38005007#64, 0xfc00707f#64, .opcode, insnDref⟩,
  ⟨"th.vlsseg2w.v", 0, .xtheadvector, "Vd,0(s),tVm", 0x38006007#64, 0xfc00707f#64, .opcode, insnDref⟩,
  ⟨"th.vlsseg2bu.v", 0, .xtheadvector, "Vd,0(s),tVm", 0x28000007#64, 0xfc00707f#64, .opcode, insnDref⟩,
  ⟨"th.vlsseg2hu.v", 0, .xtheadvector, "Vd,0(s),tVm", 0x28005007#64, 0xfc00707f#64, .opcode, insnDref⟩,
  ⟨"th.vlsseg2wu.v", 0, .xtheadvector, "Vd,0(s),tVm", 0x28006007#64, 0xfc00707f#64, .opcode, insnDref⟩,
  ⟨"th.vlsseg2e.v", 0, .xtheadvector, "Vd,0(s),tVm", 0x28007007#64, 0xfc00707f#64, .opcode, insnDref⟩,
  ⟨"th.vssseg2b.v", 0, .xtheadvector, "Vd,0(s),tVm", 0x28000027#64, 0xfc00707f#64, .opcode, insnDref⟩,
  ⟨"th.vssseg2h.v", 0, .xtheadvector, "Vd,0(s),tVm", 0x28005027#64, 0xfc00707f#64, .opcode, insnDref⟩,
  ⟨"th.vssseg2w.v", 0, .xtheadvector, "Vd,0(s),tVm", 0x28006027#64, 0xfc00707f#64, .opcode, insnDref⟩,
  ⟨"th.vssseg2e.v", 0, .xtheadvector, "Vd,0(s),tVm", 0x28007027#64, 0xfc00707f#64, .opcode, insnDref⟩,
  ⟨"th.vlsseg3b.v", 0, .xtheadvector, "Vd,0(s),tVm", 0x58000007#64, 0xfc00707f#64, .opcode, insnDref⟩,
  ⟨"th.vlsseg3h.v", 0, .xtheadvector, "Vd,0(s),tVm", 0x58005007#64, 0xfc00707f#64, .opcode, insnDref⟩,
  ⟨"th.vlsseg3w.v", 0, .xtheadvector, "Vd,0(s),tVm", 0x58006007#64, 0xfc00707f#64, .opcode, insnDref⟩,
  ⟨"th.vlsseg3bu.v", 0, .xtheadvector, "Vd,0(s),tVm", 0x48000007#64, 0xfc00707f#64, .opcode, insnDref⟩,
  ⟨"th.vlsseg3hu.v", 0, .xtheadvector, "Vd,0(s),tVm", 0x48005007#64, 0xfc00707f#64, .opcode, insnDref⟩,
  ⟨"th.vlsseg3wu.v", 0, .xtheadvector, "Vd,0(s),tVm", 0x48006007#64, 0xfc00707f#64, .opcode, insnDref⟩,
  ⟨"th.vlsseg3e.v", 0, .xtheadvector, "Vd,0(s),tVm", 0x48007007#64, 0xfc00707f#64, .opcode, insnDref⟩,
  ⟨"th.vssseg3b.v", 0, .xtheadvector, "Vd,0(s),tVm", 0x48000027#64, 0xfc00707f#64, .opcode, insnDref⟩,
  ⟨"th.vssseg3h.v", 0, .xtheadvector, "Vd,0(s),tVm", 0x48005027#64, 0xfc00707f#64, .opcode, insnDref⟩,
  ⟨"th.vssseg3w.v", 0, .xtheadvector, "Vd,0(s),tVm", 0x48006027#64, 0xfc00707f#64, .opcode, insnDref⟩,
  ⟨"th.vssseg3e.v", 0, .xtheadvector, "Vd,0(s),tVm", 0x48007027#64, 0xfc00707f#64, .opcode, insnDref⟩,
  ⟨"th.vlsseg4b.v", 0, .xtheadvector, "Vd,0(s),tVm", 0x78000007#64, 0xfc00707f#64, .opcode, insnDref⟩,
  ⟨"th.vlsseg4h.v", 0, .xtheadvector, "Vd,0(s),tVm", 0x78005007#64, 0xfc00707f#64, .opcode, insnDref⟩,
  ⟨"th.vlsseg4w.v", 0, .xtheadvector, "Vd,0(s),tVm", 0x78006007#64, 0xfc00707f#64, .opcode, insnDref⟩,
  ⟨"th.vlsseg4bu.v", 0, .xtheadvector, "Vd,0(s),tVm", 0x68000007#64, 0xfc00707f#64, .opcode, insnDref⟩,
  ⟨"th.vlsseg4hu.v", 0, .xtheadvector, "Vd,0(s),tVm", 0x68005007#64, 0xfc00707f#64, .opcode, insnDref⟩,
  ⟨"th.vlsseg4wu.v", 0, .xtheadvector, "Vd,0(s),tVm", 0x68006007#64, 0xfc00707f#64, .opcode, insnDref⟩,
  ⟨"th.vlsseg4e.v", 0, .xtheadvector, "Vd,0(s),tVm", 0x68007007#64, 0xfc00707f#64, .opcode, insnDref⟩,
  ⟨"th.vssseg4b.v", 0, .xtheadvector, "Vd,0(s),tVm", 0x68000027#64, 0xfc00707f#64, .opcode, insnDref⟩,
  ⟨"th.vssseg4h.v", 0, .xtheadvector, "Vd,0(s),tVm", 0x68005027#64, 0xfc00707f#64, .opcode, insnDref⟩,
  ⟨"th.vssseg4w.v", 0, .xtheadvector, "Vd,0(s),tVm", 0x68006027#64, 0xfc00707f#64, .opcode, insnDref⟩,
  ⟨"th.vssseg4e.v", 0, .xtheadvector, "Vd,0(s),tVm", 0x68007027#64, 0xfc00707f#64, .opcode, insnDref⟩,
  ⟨"th.vlsseg5b.v", 0, .xtheadvector, "Vd,0(s),tVm", 0x98000007#64, 0xfc00707f#64, .opcode, insnDref⟩,
  ⟨"th.vlsseg5h.v", 0, .xtheadvector, "Vd,0(s),tVm", 0x98005007#64, 0xfc00707f#64, .opcode, insnDref⟩,
  ⟨"th.vlsseg5w.v", 0, .xtheadvector, "Vd,0(s),tVm", 0x98006007#64, 0xfc00707f#64, .opcode, insnDref⟩,
  ⟨"th.vlsseg5bu.v", 0, .xtheadvector, "Vd,0(s),tVm", 0x88000007#64, 0xfc00707f#64, .opcode, insnDref⟩,
  ⟨"th.vlsseg5hu.v", 0, .xtheadvector, "Vd,0(s),tVm", 0x88005007#64, 0xfc00707f#64, .opcode, insnDref⟩,
  ⟨"th.vlsseg5wu.v", 0, .xtheadvector, "Vd,0(s),tVm", 0x88006007#64, 0xfc00707f#64, .opcode, insnDref⟩,
  ⟨"th.vlsseg5e.v", 0, .xtheadvector, "Vd,0(s),tVm", 0x88007007#64, 0xfc00707f#64, .opcode, insnDref⟩,
  ⟨"th.vssseg5b.v", 0, .xtheadvector, "Vd,0(s),tVm", 0x88000027#64, 0xfc00707f#64, .opcode, insnDref⟩,
  ⟨"th.vssseg5h.v", 0, .xtheadvector, "Vd,0(s),tVm", 0x88005027#64, 0xfc00707f#64, .opcode, insnDref⟩,
  ⟨"th.vssseg5w.v", 0, .xtheadvector, "Vd,0(s),tVm", 0x88006027#64, 0xfc00707f#64, .opcode, insnDref⟩,
  ⟨"th.vssseg5e.v", 0, .xtheadvector, "Vd,0(s),tVm", 0x88007027#64, 0xfc00707f#64, .opcode, insnDref⟩,
  ⟨"th.vlsseg6b.v", 0, .xtheadvector, "Vd,0(s),tVm", 0xb8000007#64, 0xfc00707f#64, .opcode, insnDref⟩,
  ⟨"th.vlsseg6h.v", 0, .xtheadvector, "Vd,0(s),tVm", 0xb8005007#64, 0xfc00707f#64, .opcode, insnDref⟩,
  ⟨"th.vlsseg6w.v", 0, .xtheadvector, "Vd,0(s),tVm", 0xb8006007#64, 0xfc00707f#64, .opcode, insnDref⟩,
  ⟨"th.vlsseg6bu.v", 0, .xtheadvector, "Vd,0(s),tVm", 0xa8000007#64, 0xfc00707f#64, .opcode, insnDref⟩,
  ⟨"th.vlsseg6hu.v", 0, .xtheadvector, "Vd,0(s),tVm", 0xa8005007#64, 0xfc00707f#64, .opcode, insnDref⟩,
  ⟨"th.vlsseg6wu.v", 0, .xtheadvector, "Vd,0(s),tVm", 0xa8006007#64, 0xfc00707f#64, .opcode, insnDref⟩,
  ⟨"th.vlsseg6e.v", 0, .xtheadvector, "Vd,0(s),tVm", 0xa8007007#64, 0xfc00707f#64, .opcode, insnDref⟩,
  ⟨"th.vssseg6b.v", 0, .xtheadvector, "Vd,0(s),tVm", 0xa8000027#64, 0xfc00707f#64, .opcode, insnDref⟩,
  ⟨"th.vssseg6h.v", 0, .xtheadvector, "Vd,0(s),tVm", 0xa8005027#64, 0xfc00707f#64, .opcode, insnDref⟩,
  ⟨"th.vssseg6w.v", 0, .xtheadvector, "Vd,0(s),tVm", 0xa8006027#64, 0xfc00707f#64, .opcode, insnDref⟩,
  ⟨"th.vssseg6e.v", 0, .xtheadvector, "Vd,0(s),tVm", 0xa8007027#64, 0xfc00707f#64, .opcode, insnDref⟩,
  ⟨"th.vlsseg7b.v", 0, .xtheadvector, "Vd,0(s),tVm", 0xd8000007#64, 0xfc00707f#64, .opcode, insnDref⟩,
  ⟨"th.vlsseg7h.v", 0, .xtheadvector, "Vd,0(s),tVm", 0xd8005007#64, 0xfc00707f#64, .opcode, insnDref⟩,
  ⟨"th.vlsseg7w.v", 0, .xtheadvector, "Vd,0(s),tVm", 0xd8006007#64, 0xfc00707f#64, .opcode, insnDref⟩,
  ⟨"th.vlsseg7bu.v", 0, .xtheadvector, "Vd,0(s),tVm", 0xc8000007#64, 0xfc00707f#64, .opcode, insnDref⟩,
  ⟨"th.vlsseg7hu.v", 0, .xtheadvector, "Vd,0(s),tVm", 0xc8005007#64, 0xfc00707f#64, .opcode, insnDref⟩,
  ⟨"th.vlsseg7wu.v", 0, .xtheadvector, "Vd,0(s),tVm", 0xc8006007#64, 0xfc00707f#64, .opcode, insnDref⟩,
  ⟨"th.vlsseg7e.v", 0, .xtheadvector, "Vd,0(s),tVm", 0xc8007007#64, 0xfc00707f#64, .opcode, insnDref⟩,
  ⟨"th.vssseg7b.v", 0, .xtheadvector, "Vd,0(s),tVm", 0xc8000027#64, 0xfc00707f#64, .opcode, insnDref⟩,
  ⟨"th.vssseg7h.v", 0, .xtheadvector, "Vd,0(s),tVm", 0xc8005027#64, 0xfc00707f#64, .opcode, insnDref⟩,
  ⟨"th.vssseg7w.v", 0, .xtheadvector, "Vd,0(s),tVm", 0xc8006027#64, 0xfc00707f#64, .opcode, insnDref⟩,
  ⟨"th.vssseg7e.v", 0, .xtheadvector, "Vd,0(s),tVm", 0xc8007027#64, 0xfc00707f#64, .opcode, insnDref⟩,
  ⟨"th.vlsseg8b.v", 0, .xtheadvector, "Vd,0(s),tVm", 0xf8000007#64, 0xfc00707f#64, .opcode, insnDref⟩]

def theadVectorInsns2 : List RiscvOpcodeRow := [
  ⟨"th.vlsseg8h.v", 0, .xtheadvector, "Vd,0(s),tVm", 0xf8005007#64, 0xfc00707f#64, .opcode, insnDref⟩,
  ⟨"th.vlsseg8w.v", 0, .xtheadvector, "Vd,0(s),tVm", 0xf8006007#64, 0xfc00707f#64, .opcode, insnDref⟩,
  ⟨"th.vlsseg8bu.v", 0, .xtheadvector, "Vd,0(s),tVm", 0xe8000007#64, 0xfc00707f#64, .opcode, insnDref⟩,
  ⟨"th.vlsseg8hu.v", 0, .xtheadvector, "Vd,0(s),tVm", 0xe8005007#64, 0xfc00707f#64, .opcode, insnDref⟩,
  ⟨"th.vlsseg8wu.v", 0, .xtheadvector, "Vd,0(s),tVm", 0xe8006007#64, 0xfc00707f#64, .opcode, insnDref⟩,
  ⟨"th.vlsseg8e.v", 0, .xtheadvector, "Vd,0(s),tVm", 0xe8007007#64, 0xfc00707f#64, .opcode, insnDref⟩,
  ⟨"th.vssseg8b.v", 0, .xtheadvector, "Vd,0(s),tVm", 0xe8000027#64, 0xfc00707f#64, .opcode, insnDref⟩,
  ⟨"th.vssseg8h.v", 0, .xtheadvector, "Vd,0(s),tVm", 0xe8005027#64, 0xfc00707f#64, .opcode, insnDref⟩,
  ⟨"th.vssseg8w.v", 0, .xtheadvector, "Vd,0(s),tVm", 0xe8006027#64, 0xfc00707f#64, .opcode, insnDref⟩,
  ⟨"th.vssseg8e.v", 0, .xtheadvector, "Vd,0(s),tVm", 0xe8007027#64, 0xfc00707f#64, .opcode, insnDref⟩,
  ⟨"th.vlxseg2b.v", 0, .xtheadvector, "Vd,0(s),VtVm", 0x3c000007#64, 0xfc00707f#64, .opcode, insnDref⟩,
  ⟨"th.vlxseg2h.v", 0, .xtheadvector, "Vd,0(s),VtVm", 0x3c005007#64, 0xfc00707f#64, .opcode, insnDref⟩,
  ⟨"th.vlxseg2w.v", 0, .xtheadvector, "Vd,0(s),VtVm", 0x3c006007#64, 0xfc00707f#64, .opcode, insnDref⟩,
  ⟨"th.vlxseg2bu.v", 0, .xtheadvector, "Vd,0(s),VtVm", 0x2c000007#64, 0xfc00707f#64, .opcode, insnDref⟩,
  ⟨"th.vlxseg2hu.v", 0, .xtheadvector, "Vd,0(s),VtVm", 0x2c005007#64, 0xfc00707f#64, .opcode, insnDref⟩,
  ⟨"th.vlxseg2wu.v", 0, .xtheadvector, "Vd,0(s),VtVm", 0x2c006007#64, 0xfc00707f#64, .opcode, insnDref⟩,
  ⟨"th.vlxseg2e.v", 0, .xtheadvector, "Vd,0(s),VtVm", 0x2c007007#64, 0xfc00707f#64, .opcode, insnDref⟩,
  ⟨"th.vsxseg2b.v", 0, .xtheadvector, "Vd,0(s),VtVm", 0x2c000027#64, 0xfc00707f#64, .opcode, insnDref⟩,
  ⟨"th.vsxseg2h.v", 0, .xtheadvector, "Vd,0(s),VtVm", 0x2c005027#64, 0xfc00707f#64, .opcode, insnDref⟩,
  ⟨"th.vsxseg2w.v", 0, .xtheadvector, "Vd,0(s),VtVm", 0x2c006027#64, 0xfc00707f#64, .opcode, insnDref⟩,
  ⟨"th.vsxseg2e.v", 0, .xtheadvector, "Vd,0(s),VtVm", 0x2c007027#64, 0xfc00707f#64, .opcode, insnDref⟩,
  ⟨"th.vlxseg3b.v", 0, .xtheadvector, "Vd,0(s),VtVm", 0x5c000007#64, 0xfc00707f#64, .opcode, insnDref⟩,
  ⟨"th.vlxseg3h.v", 0, .xtheadvector, "Vd,0(s),VtVm", 0x5c005007#64, 0xfc00707f#64, .opcode, insnDref⟩,
  ⟨"th.vlxseg3w.v", 0, .xtheadvector, "Vd,0(s),VtVm", 0x5c006007#64, 0xfc00707f#64, .opcode, insnDref⟩,
  ⟨"th.vlxseg3bu.v", 0, .xtheadvector, "Vd,0(s),VtVm", 0x4c000007#64, 0xfc00707f#64, .opcode, insnDref⟩,
  ⟨"th.vlxseg3hu.v", 0, .xtheadvector, "Vd,0(s),VtVm", 0x4c005007#64, 0xfc00707f#64, .opcode, insnDref⟩,
  ⟨"th.vlxseg3wu.v", 0, .xtheadvector, "Vd,0(s),VtVm", 0x4c006007#64, 0xfc00707f#64, .opcode, insnDref⟩,
  ⟨"th.vlxseg3e.v", 0, .xtheadvector, "Vd,0(s),VtVm", 0x4c007007#64, 0xfc00707f#64, .opcode, insnDref⟩,
  ⟨"th.vsxseg3b.v", 0, .xtheadvector, "Vd,0(s),VtVm", 0x4c000027#64, 0xfc00707f#64, .opcode, insnDref⟩,
  ⟨"th.vsxseg3h.v", 0, .xtheadvector, "Vd,0(s),VtVm", 0x4c005027#64, 0xfc00707f#64, .opcode, insnDref⟩,
  ⟨"th.vsxseg3w.v", 0, .xtheadvector, "Vd,0(s),VtVm", 0x4c006027#64, 0xfc00707f#64, .opcode, insnDref⟩,
  ⟨"th.vsxseg3e.v", 0, .xtheadvector, "Vd,0(s),VtVm", 0x4c007027#64, 0xfc00707f#64, .opcode, insnDref⟩,
  ⟨"th.vlxseg4b.v", 0, .xtheadvector, "Vd,0(s),VtVm", 0x7c000007#64, 0xfc00707f#64, .opcode, insnDref⟩,
  ⟨"th.vlxseg4h.v", 0, .xtheadvector, "Vd,0(s),VtVm", 0x7c005007#64, 0xfc00707f#64, .opcode, insnDref⟩,
  ⟨"th.vlxseg4w.v", 0, .xtheadvector, "Vd,0(s),VtVm", 0x7c006007#64, 0xfc00707f#64, .opcode, insnDref⟩,
  ⟨"th.vlxseg4bu.v", 0, .xtheadvector, "Vd,0(s),VtVm", 0x6c000007#64, 0xfc00707f#64, .opcode, insnDref⟩,
  ⟨"th.vlxseg4hu.v", 0, .xtheadvector, "Vd,0(s),VtVm", 0x6c005007#64, 0xfc00707f#64, .opcode, insnDref⟩,
  ⟨"th.vlxseg4wu.v", 0, .xtheadvector, "Vd,0(s),VtVm", 0x6c006007#64, 0xfc00707f#64, .opcode, insnDref⟩,
  ⟨"th.vlxseg4e.v", 0, .xtheadvector, "Vd,0(s),VtVm", 0x6c007007#64, 0xfc00707f#64, .opcode, insnDref⟩,
  ⟨"th.vsxseg4b.v", 0, .xtheadvector, "Vd,0(s),VtVm", 0x6c000027#64, 0xfc00707f#64, .opcode, insnDref⟩,
  ⟨"th.vsxseg4h.v", 0, .xtheadvector, "Vd,0(s),VtVm", 0x6c005027#64, 0xfc00707f#64, .opcode, insnDref⟩,
  ⟨"th.vsxseg4w.v", 0, .xtheadvector, "Vd,0(s),VtVm", 0x6c006027#64, 0xfc00707f#64, .opcode, insnDref⟩,
  ⟨"th.vsxseg4e.v", 0, .xtheadvector, "Vd,0(s),VtVm", 0x6c007027#64, 0xfc00707f#64, .opcode, insnDref⟩,
  ⟨"th.vlxseg5b.v", 0, .xtheadvector, "Vd,0(s),VtVm", 0x9c000007#64, 0xfc00707f#64, .opcode, insnDref⟩,
  ⟨"th.vlxseg5h.v", 0, .xtheadvector, "Vd,0(s),VtVm", 0x9c005007#64, 0xfc00707f#64, .opcode, insnDref⟩,
  ⟨"th.vlxseg5w.v", 0, .xtheadvector, "Vd,0(s),VtVm", 0x9c006007#64, 0xfc00707f#64, .opcode, insnDref⟩,
  ⟨"th.vlxseg5bu.v", 0, .xtheadvector, "Vd,0(s),VtVm", 0x8c000007#64, 0xfc00707f#64, .opcode, insnDref⟩,
  ⟨"th.vlxseg5hu.v", 0, .xtheadvector, "Vd,0(s),VtVm", 0x8c005007#64, 0xfc00707f#64, .opcode, insnDref⟩,
  ⟨"th.vlxseg5wu.v", 0, .xtheadvector, "Vd,0(s),VtVm", 0x8c006007#64, 0xfc00707f#64, .opcode, insnDref⟩,
  ⟨"th.vlxseg5e.v", 0, .xtheadvector, "Vd,0(s),VtVm", 0x8c007007#64, 0xfc00707f#64, .opcode, insnDref⟩,
  ⟨"th.vsxseg5b.v", 0, .xtheadvector, "Vd,0(s),VtVm", 0x8c000027#64, 0xfc00707f#64, .opcode, insnDref⟩,
  ⟨"th.vsxseg5h.v", 0, .xtheadvector, "Vd,0(s),VtVm", 0x8c005027#64, 0xfc00707f#64, .opcode, insnDref⟩,
  ⟨"th.vsxseg5w.v", 0, .xtheadvector, "Vd,0(s),VtVm", 0x8c006027#64, 0xfc00707f#64, .opcode, insnDref⟩,
  ⟨"th.vsxseg5e.v", 0, .xtheadvector, "Vd,0(s),VtVm", 0x8c007027#64, 0xfc00707f#64, .opcode, insnDref⟩,
  ⟨"th.vlxseg6b.v", 0, .xtheadvector, "Vd,0(s),VtVm", 0xbc000007#64, 0xfc00707f#64, .opcode, insnDref⟩,
  ⟨"th.vlxseg6h.v", 0, .xtheadvector, "Vd,0(s),VtVm", 0xbc005007#64, 0xfc00707f#64, .opcode, insnDref⟩,
  ⟨"th.vlxseg6w.v", 0, .xtheadvector, "Vd,0(s),VtVm", 0xbc006007#64, 0xfc00707f#64, .opcode, insnDref⟩,
  ⟨"th.vlxseg6bu.v", 0, .xtheadvector, "Vd,0(s),VtVm", 0xac000007#64, 0xfc00707f#64, .opcode, insnDref⟩,
  ⟨"th.vlxseg6hu.v", 0, .xtheadvector, "Vd,0(s),VtVm", 0xac005007#64, 0xfc00707f#64, .opcode, insnDref⟩,
  ⟨"th.vlxseg6wu.v", 0, .xtheadvector, "Vd,0(s),VtVm", 0xac006007#64, 0xfc00707f#64, .opcode, insnDref⟩,
  ⟨"th.vlxseg6e.v", 0, .xtheadvector, "Vd,0(s),VtVm", 0xac007007#64, 0xfc00707f#64, .opcode, insnDref⟩,
  ⟨"th.vsxseg6b.v", 0, .xtheadvector, "Vd,0(s),VtVm", 0xac000027#64, 0xfc00707f#64, .opcode, insnDref⟩,
  ⟨"th.vsxseg6h.v", 0, .xtheadvector, "Vd,0(s),VtVm", 0xac005027#64, 0xfc00707f#64, .opcode, insnDref⟩,
  ⟨"th.vsxseg6w.v", 0, .xtheadvector, "Vd,0(s),VtVm", 0xac006027#64, 0xfc00707f#64, .opcode, insnDref⟩,
  ⟨"th.vsxseg6e.v", 0, .xtheadvector, "Vd,0(s),VtVm", 0xac007027#64, 0xfc00707f#64, .opcode, insnDref⟩,
  ⟨"th.vlxseg7b.v", 0, .xtheadvector, "Vd,0(s),VtVm", 0xdc000007#64, 0xfc00707f#64, .opcode, insnDref⟩,
  ⟨"th.vlxseg7h.v", 0, .xtheadvector, "Vd,0(s),VtVm", 0xdc005007#64, 0xfc00707f#64, .opcode, insnDref⟩,
  ⟨"th.vlxseg7w.v", 0, .xtheadvector, "Vd,0(s),VtVm", 0xdc006007#64, 0xfc00707f#64, .opcode, insnDref⟩,
  ⟨"th.vlxseg7bu.v", 0, .xtheadvector, "Vd,0(s),VtVm", 0xcc000007#64, 0xfc00707f#64, .opcode, insnDref⟩,
  ⟨"th.vlxseg7hu.v", 0, .xtheadvector, "Vd,0(s),VtVm", 0xcc005007#64, 0xfc00707f#64, .opcode, insnDref⟩,
  ⟨"th.vlxseg7wu.v", 0, .xtheadvector, "Vd,0(s),VtVm", 0xcc006007#64, 0xfc00707f#64, .opcode, insnDref⟩,
  ⟨"th.vlxseg7e.v", 0, .xtheadvector, "Vd,0(s),VtVm", 0xcc007007#64, 0xfc00707f#64, .opcode, insnDref⟩,
  ⟨"th.vsxseg7b.v", 0, .xtheadvector, "Vd,0(s),VtVm", 0xcc000027#64, 0xfc00707f#64, .opcode, insnDref⟩,
  ⟨"th.vsxseg7h.v", 0, .xtheadvector, "Vd,0(s),VtVm", 0xcc005027#64, 0xfc00707f#64, .opcode, insnDref⟩,
  ⟨"th.vsxseg7w.v", 0, .xtheadvector, "Vd,0(s),VtVm", 0xcc006027#64, 0xfc00707f#64, .opcode, insnDref⟩,
  ⟨"th.vsxseg7e.v", 0, .xtheadvector, "Vd,0(s),VtVm", 0xcc007027#64, 0xfc00707f#64, .opcode, insnDref⟩,
  ⟨"th.vlxseg8b.v", 0, .xtheadvector, "Vd,0(s),VtVm", 0xfc000007#64, 0xfc00707f#64, .opcode, insnDref⟩,
  ⟨"th.vlxseg8h.v", 0, .xtheadvector, "Vd,0(s),VtVm", 0xfc005007#64, 0xfc00707f#64, .opcode, insnDref⟩,
  ⟨"th.vlxseg8w.v", 0, .xtheadvector, "Vd,0(s),VtVm", 0xfc006007#64, 0xfc00707f#64, .opcode, insnDref⟩,
  ⟨"th.vlxseg8bu.v", 0, .xtheadvector, "Vd,0(s),VtVm", 0xec000007#64, 0xfc00707f#64, .opcode, insnDref⟩,
  ⟨"th.vlxseg8hu.v", 0, .xtheadvector, "Vd,0(s),VtVm", 0xec005007#64, 0xfc00707f#64, .opcode, insnDref⟩,
  ⟨"th.vlxseg8wu.v", 0, .xtheadvector, "Vd,0(s),VtVm", 0xec006007#64, 0xfc00707f#64, .opcode, insnDref⟩,
  ⟨"th.vlxseg8e.v", 0, .xtheadvector, "Vd,0(s),VtVm", 0xec007007#64, 0xfc00707f#64, .opcode, insnDref⟩,
  ⟨"th.vsxseg8b.v", 0, .xtheadvector, "Vd,0(s),VtVm", 0xec000027#64, 0xfc00707f#64, .opcode, insnDref⟩,
  ⟨"th.vsxseg8h.v", 0, .xtheadvector, "Vd,0(s),VtVm", 0xec005027#64, 0xfc00707f#64, .opcode, insnDref⟩,
  ⟨"th.vsxseg8w.v", 0, .xtheadvector, "Vd,0(s),VtVm", 0xec006027#64, 0xfc00707f#64, .opcode, insnDref⟩,
  ⟨"th.vsxseg8e.v", 0, .xtheadvector, "Vd,0(s),VtVm", 0xec007027#64, 0xfc00707f#64, .opcode, insnDref⟩,
  ⟨"th.vlseg2bff.v", 0, .xtheadvector, "Vd,0(s)Vm", 0x31000007#64, 0xfdf0707f#64, .opcode, insnDref⟩,
  ⟨"th.vlseg2hff.v", 0, .xtheadvector, "Vd,0(s)Vm", 0x31005007#64, 0xfdf0707f#64, .opcode, insnDref⟩,
  ⟨"th.vlseg2wff.v", 0, .xtheadvector, "Vd,0(s)Vm", 0x31006007#64, 0xfdf0707f#64, .opcode, insnDref⟩,
  ⟨"th.vlseg2buff.v", 0, .xtheadvector, "Vd,0(s)Vm", 0x21000007#64, 0xfdf0707f#64, .opcode, insnDref⟩,
  ⟨"th.vlseg2huff.v", 0, .xtheadvector, "Vd,0(s)Vm", 0x21005007#64, 0xfdf0707f#64, .opcode, insnDref⟩,
  ⟨"th.vlseg2wuff.v", 0, .xtheadvector, "Vd,0(s)Vm", 0x21006007#64, 0xfdf0707f#64, .opcode, insnDref⟩,
  ⟨"th.vlseg2eff.v", 0, .xtheadvector, "Vd,0(s)Vm", 0x21007007#64, 0xfdf0707f#64, .opcode, insnDref⟩,
  ⟨"th.vlseg3bff.v", 0, .xtheadvector, "Vd,0(s)Vm", 0x51000007#64, 0xfdf0707f#64, .opcode, insnDref⟩,
  ⟨"th.vlseg3hff.v", 0, .xtheadvector, "Vd,0(s)Vm", 0x51005007#64, 0xfdf0707f#64, .opcode, insnDref⟩,
  ⟨"th.vlseg3wff.v", 0, .xtheadvector, "Vd,0(s)Vm", 0x51006007#64, 0xfdf0707f#64, .opcode, insnDref⟩,
  ⟨"th.vlseg3buff.v", 0, .xtheadvector, "Vd,0(s)Vm", 0x41000007#64, 0xfdf0707f#64, .opcode, insnDref⟩,
  ⟨"th.vlseg3huff.v", 0, .xtheadvector, "Vd,0(s)Vm", 0x41005007#64, 0xfdf0707f#64, .opcode, insnDref⟩,
  ⟨"th.vlseg3wuff.v", 0, .xtheadvector, "Vd,0(s)Vm", 0x41006007#64, 0xfdf0707f#64, .opcode, insnDref⟩,
  ⟨"th.vlseg3eff.v", 0, .xtheadvector, "Vd,0(s)Vm", 0x41007007#64, 0xfdf0707f#64, .opcode, insnDref⟩,
  ⟨"th.vlseg4bff.v", 0, .xtheadvector, "Vd,0(s)Vm", 0x71000007#64, 0xfdf0707f#64, .opcode, insnDref⟩,
  ⟨"th.vlseg4hff.v", 0, .xtheadvector, "Vd,0(s)Vm", 0x71005007#64, 0xfdf0707f#64, .opcode, insnDref⟩,
  ⟨"th.vlseg4wff.v", 0, .xtheadvector, "Vd,0(s)Vm", 0x71006007#64, 0xfdf0707f#64, .opcode, insnDref⟩,
  ⟨"th.vlseg4buff.v", 0, .xtheadvector, "Vd,0(s)Vm", 0x61000007#64, 0xfdf0707f#64, .opcode, insnDref⟩,
  ⟨"th.vlseg4huff.v", 0, .xtheadvector, "Vd,0(s)Vm", 0x61005007#64, 0xfdf0707f#64, .opcode, insnDref⟩,
  ⟨"th.vlseg4wuff.v", 0, .xtheadvector, "Vd,0(s)Vm", 0x61006007#64, 0xfdf0707f#64, .opcode, insnDref⟩,
  ⟨"th.vlseg4eff.v", 0, .xtheadvector, "Vd,0(s)Vm", 0x61007007#64, 0xfdf0707f#64, .opcode, insnDref⟩,
  ⟨"th.vlseg5bff.v", 0, .xtheadvector, "Vd,0(s)Vm", 0x91000007#64, 0xfdf0707f#64, .opcode, insnDref⟩,
  ⟨"th.vlseg5hff.v", 0, .xtheadvector, "Vd,0(s)Vm", 0x91005007#64, 0xfdf0707f#64, .opcode, insnDref⟩,
  ⟨"th.vlseg5wff.v", 0, .xtheadvector, "Vd,0(s)Vm", 0x91006007#64, 0xfdf0707f#64, .opcode, insnDref⟩,
  ⟨"th.vlseg5buff.v", 0, .xtheadvector, "Vd,0(s)Vm", 0x81000007#64, 0xfdf0707f#64, .opcode, insnDref⟩,
  ⟨"th.vlseg5huff.v", 0, .xtheadvector, "Vd,0(s)Vm", 0x81005007#64, 0xfdf0707f#64, .opcode, insnDref⟩,
  ⟨"th.vlseg5wuff.v", 0, .xtheadvector, "Vd,0(s)Vm", 0x81006007#64, 0xfdf0707f#64, .opcode, insnDref⟩,
  ⟨"th.vlseg5eff.v", 0, .xtheadvector, "Vd,0(s)Vm", 0x81007007#64, 0xfdf0707f#64, .opcode, insnDref⟩,
  ⟨"th.vlseg6bff.v", 0, .xtheadvector, "Vd,0(s)Vm", 0xb1000007#64, 0xfdf0707f#64, .opcode, insnDref⟩,
  ⟨"th.vlseg6hff.v", 0, .xtheadvector, "Vd,0(s)Vm", 0xb1005007#64, 0xfdf0707f#64, .opcode, insnDref⟩,
  ⟨"th.vlseg6wff.v", 0, .xtheadvector, "Vd,0(s)Vm", 0xb1006007#64, 0xfdf0707f#64, .opcode, insnDref⟩,
  ⟨"th.vlseg6buff.v", 0, .xtheadvector, "Vd,0(s)Vm", 0xa1000007#64, 0xfdf0707f#64, .opcode, insnDref⟩,
  ⟨"th.vlseg6huff.v", 0, .xtheadvector, "Vd,0(s)Vm", 0xa1005007#64, 0xfdf0707f#64, .opcode, insnDref⟩,
  ⟨"th.vlseg6wuff.v", 0, .xtheadvector, "Vd,0(s)Vm", 0xa1006007#64, 0xfdf0707f#64, .opcode, insnDref⟩,
  ⟨"th.vlseg6eff.v", 0, .xtheadvector, "Vd,0(s)Vm", 0xa1007007#64, 0xfdf0707f#64, .opcode, insnDref⟩,
  ⟨"th.vlseg7bff.v", 0, .xtheadvector, "Vd,0(s)Vm", 0xd1000007#64, 0xfdf0707f#64, .opcode, insnDref⟩,
  ⟨"th.vlseg7hff.v", 0, .xtheadvector, "Vd,0(s)Vm", 0xd1005007#64, 0xfdf0707f#64, .opcode, insnDref⟩,
  ⟨"th.vlseg7wff.v", 0, .xtheadvector, "Vd,0(s)Vm", 0xd1006007#64, 0xfdf0707f#64, .opcode, insnDref⟩,
  ⟨"th.vlseg7buff.v", 0, .xtheadvector, "Vd,0(s)Vm", 0xc1000007#64, 0xfdf0707f#64, .opcode, insnDref⟩,
  ⟨"th.vlseg7huff.v", 0, .xtheadvector, "Vd,0(s)Vm", 0xc1005007#64, 0xfdf0707f#64, .opcode, insnDref⟩,
  ⟨"th.vlseg7wuff.v", 0, .xtheadvector, "Vd,0(s)Vm", 0xc1006007#64, 0xfdf0707f#64, .opcode, insnDref⟩,
  ⟨"th.vlseg7eff.v", 0, .xtheadvector, "Vd,0(s)Vm", 0xc1007007#64, 0xfdf0707f#64, .opcode, insnDref⟩,
  ⟨"th.vlseg8bff.v", 0, .xtheadvector, "Vd,0(s)Vm", 0xf1000007#64, 0xfdf0707f#64, .opcode, insnDref⟩,
  ⟨"th.vlseg8hff.v", 0, .xtheadvector, "Vd,0(s)Vm", 0xf1005007#64, 0xfdf0707f#64, .opcode, insnDref⟩,
  ⟨"th.vlseg8wff.v", 0, .xtheadvector, "Vd,0(s)Vm", 0xf1006007#64, 0xfdf0707f#64, .opcode, insnDref⟩,
  ⟨"th.vlseg8buff.v", 0, .xtheadvector, "Vd,0(s)Vm", 0xe1000007#64, 0xfdf0707f#64, .opcode, insnDref⟩,
  ⟨"th.vlseg8huff.v", 0, .xtheadvector, "Vd,0(s)Vm", 0xe1005007#64, 0xfdf0707f#64, .opcode, insnDref⟩,
  ⟨"th.vlseg8wuff.v", 0, .xtheadvector, "Vd,0(s)Vm", 0xe1006007#64, 0xfdf0707f#64, .opcode, insnDref⟩,
  ⟨"th.vlseg8eff.v", 0, .xtheadvector, "Vd,0(s)Vm", 0xe1007007#64, 0xfdf0707f#64, .opcode, insnDref⟩,
  ⟨"th.vamoaddw.v", 0, .xtheadzvamo, "Ve,Vt,(s),VfVm", 0x602f#64, 0xf800707f#64, .opcode, insnDref⟩,
  ⟨"th.vamoaddd.v", 0, .xtheadzvamo, "Ve,Vt,(s),VfVm", 0x702f#64, 0xf800707f#64, .opcode, insnDref⟩,
  ⟨"th.vamoswapw.v", 0, .xtheadzvamo, "Ve,Vt,(s),VfVm", 0x800602f#64, 0xf800707f#64, .opcode, insnDref⟩,
  ⟨"th.vamoswapd.v", 0, .xtheadzvamo, "Ve,Vt,(s),VfVm", 0x800702f#64, 0xf800707f#64, .opcode, insnDref⟩,
  ⟨"th.vamoxorw.v", 0, .xtheadzvamo, "Ve,Vt,(s),VfVm", 0x2000602f#64, 0xf800707f#64, .opcode, insnDref⟩,
  ⟨"th.vamoxord.v", 0, .xtheadzvamo, "Ve,Vt,(s),VfVm", 0x2000702f#64, 0xf800707f#64, .opcode, insnDref⟩,
  ⟨"th.vamoandw.v", 0, .xtheadzvamo, "Ve,Vt,(s),VfVm", 0x6000602f#64, 0xf800707f#64, .opcode, insnDref⟩,
  ⟨"th.vamoandd.v", 0, .xtheadzvamo, "Ve,Vt,(s),VfVm", 0x6000702f#64, 0xf800707f#64, .opcode, insnDref⟩,
  ⟨"th.vamoorw.v", 0, .xtheadzvamo, "Ve,Vt,(s),VfVm", 0x4000602f#64, 0xf800707f#64, .opcode, insnDref⟩,
  ⟨"th.vamoord.v", 0, .xtheadzvamo, "Ve,Vt,(s),VfVm", 0x4000702f#64, 0xf800707f#64, .opcode, insnDref⟩,
  ⟨"th.vamominw.v", 0, .xtheadzvamo, "Ve,Vt,(s),VfVm", 0x8000602f#64, 0xf800707f#64, .opcode, insnDref⟩,
  ⟨"th.vamomind.v", 0, .xtheadzvamo, "Ve,Vt,(s),VfVm", 0x8000702f#64, 0xf800707f#64, .opcode, insnDref⟩,
  ⟨"th.vamomaxw.v", 0, .xtheadzvamo, "Ve,Vt,(s),VfVm", 0xa000602f#64, 0xf800707f#64, .opcode, insnDref⟩,
  ⟨"th.vamomaxd.v", 0, .xtheadzvamo, "Ve,Vt,(s),VfVm", 0xa000702f#64, 0xf800707f#64, .opcode, insnDref⟩,
  ⟨"th.vamominuw.v", 0, .xtheadzvamo, "Ve,Vt,(s),VfVm", 0xc000602f#64, 0xf800707f#64, .opcode, insnDref⟩,
  ⟨"th.vamominud.v", 0, .xtheadzvamo, "Ve,Vt,(s),VfVm", 0xc000702f#64, 0xf800707f#64, .opcode, insnDref⟩,
  ⟨"th.vamomaxuw.v", 0, .xtheadzvamo, "Ve,Vt,(s),VfVm", 0xe000602f#64, 0xf800707f#64, .opcode, insnDref⟩,
  ⟨"th.vamomaxud.v", 0, .xtheadzvamo, "Ve,Vt,(s),VfVm", 0xe000702f#64, 0xf800707f#64, .opcode, insnDref⟩,
  ⟨"th.vneg.v", 0, .xtheadvector, "Vd,VtVm", 0xc004057#64, 0xfc0ff07f#64, .opcode, insnAlias⟩,
  ⟨"th.vadd.vv", 0, .xtheadvector, "Vd,Vt,VsVm", 0x57#64, 0xfc00707f#64, .opcode, 0⟩,
  ⟨"th.vadd.vx", 0, .xtheadvector, "Vd,Vt,sVm", 0x4057#64, 0xfc00707f#64, .opcode, 0⟩,
  ⟨"th.vadd.vi", 0, .xtheadvector, "Vd,Vt,ViVm", 0x3057#64, 0xfc00707f#64, .opcode, 0⟩,
  ⟨"th.vsub.vv", 0, .xtheadvector, "Vd,Vt,VsVm", 0x8000057#64, 0xfc00707f#64, .opcode, 0⟩,
  ⟨"th.vsub.vx", 0, .xtheadvector, "Vd,Vt,sVm", 0x8004057#64, 0xfc00707f#64, .opcode, 0⟩,
  ⟨"th.vrsub.vx", 0, .xtheadvector, "Vd,Vt,sVm", 0xc004057#64, 0xfc00707f#64, .opcode, 0⟩,
  ⟨"th.vrsub.vi", 0, .xtheadvector, "Vd,Vt,ViVm", 0xc003057#64, 0xfc00707f#64, .opcode, 0⟩,
  ⟨"th.vwcvt.x.x.v", 0, .xtheadvector, "Vd,VtVm", 0xc4006057#64, 0xfc0ff07f#64, .opcode, insnAlias⟩,
  ⟨"th.vwcvtu.x.x.v", 0, .xtheadvector, "Vd,VtVm", 0xc0006057#64, 0xfc0ff07f#64, .opcode, insnAlias⟩,
  ⟨"th.vwaddu.vv", 0, .xtheadvector, "Vd,Vt,VsVm", 0xc0002057#64, 0xfc00707f#64, .opcode, 0⟩,
  ⟨"th.vwaddu.vx", 0, .xtheadvector, "Vd,Vt,sVm", 0xc0006057#64, 0xfc00707f#64, .opcode, 0⟩,
  ⟨"th.vwsubu.vv", 0, .xtheadvector, "Vd,Vt,VsVm", 0xc8002057#64, 0xfc00707f#64, .opcode, 0⟩,
  ⟨"th.vwsubu.vx", 0, .xtheadvector, "Vd,Vt,sVm", 0xc8006057#64, 0xfc00707f#64, .opcode, 0⟩,
  ⟨"th.vwadd.vv", 0, .xtheadvector, "Vd,Vt,VsVm", 0xc4002057#64, 0xfc00707f#64, .opcode, 0⟩,
  ⟨"th.vwadd.vx", 0, .xtheadvector, "Vd,Vt,sVm", 0xc4006057#64, 0xfc00707f#64, .opcode, 0⟩,
  ⟨"th.vwsub.vv", 0, .xtheadvector, "Vd,Vt,VsVm", 0xcc002057#64, 0xfc00707f#64, .opcode, 0⟩,
  ⟨"th.vwsub.vx", 0, .xtheadvector, "Vd,Vt,sVm", 0xcc006057#64, 0xfc00707f#64, .opcode, 0⟩,
  ⟨"th.vwaddu.wv", 0, .xtheadvector, "Vd,Vt,VsVm", 0xd0002057#64, 0xfc00707f#64, .opcode, 0⟩,
  ⟨"th.vwaddu.wx", 0, .xtheadvector, "Vd,Vt,sVm", 0xd0006057#64, 0xfc00707f#64, .opcode, 0⟩,
  ⟨"th.vwsubu.wv", 0, .xtheadvector, "Vd,Vt,VsVm", 0xd8002057#64, 0xfc00707f#64, .opcode, 0⟩,
  ⟨"th.vwsubu.wx", 0, .xtheadvector, "Vd,Vt,sVm", 0xd8006057#64, 0xfc00707f#64, .opcode, 0⟩,
  ⟨"th.vwadd.wv", 0, .xtheadvector, "Vd,Vt,VsVm", 0xd4002057#64, 0xfc00707f#64, .opcode, 0⟩,
  ⟨"th.vwadd.wx", 0, .xtheadvector, "Vd,Vt,sVm", 0xd4006057#64, 0xfc00707f#64, .opcode, 0⟩,
  ⟨"th.vwsub.wv", 0, .xtheadvector, "Vd,Vt,VsVm", 0xdc002057#64, 0xfc00707f#64, .opcode, 0⟩,
  ⟨"th.vwsub.wx", 0, .xtheadvector, "Vd,Vt,sVm", 0xdc006057#64, 0xfc00707f#64, .opcode, 0⟩,
  ⟨"th.vadc.vvm", 0, .xtheadvector, "Vd,Vt,Vs,V0", 0x42000057#64, 0xfe00707f#64, .opcode, 0⟩,
  ⟨"th.vadc.vxm", 0, .xtheadvector, "Vd,Vt,s,V0", 0x42004057#64, 0xfe00707f#64, .opcode, 0⟩,
  ⟨"th.vadc.vim", 0, .xtheadvector, "Vd,Vt,Vi,V0", 0x42003057#64, 0xfe00707f#64, .opcode, 0⟩,
  ⟨"th.vmadc.vvm", 0, .xtheadvector, "Vd,Vt,Vs,V0", 0x46000057#64, 0xfe00707f#64, .opcode, 0⟩,
  ⟨"th.vmadc.vxm", 0, .xtheadvector, "Vd,Vt,s,V0", 0x46004057#64, 0xfe00707f#64, .opcode, 0⟩,
  ⟨"th.vmadc.vim", 0, .xtheadvector, "Vd,Vt,Vi,V0", 0x46003057#64, 0xfe00707f#64, .opcode, 0⟩,
  ⟨"th.vsbc.vvm", 0, .xtheadvector, "Vd,Vt,Vs,V0", 0x4a000057#64, 0xfe00707f#64, .opcode, 0⟩,
  ⟨"th.vsbc.vxm", 0, .xtheadvector, "Vd,Vt,s,V0", 0x4a004057#64, 0xfe00707f#64, .opcode, 0⟩,
  ⟨"th.vmsbc.vvm", 0, .xtheadvector, "Vd,Vt,Vs,V0", 0x4e000057#64, 0xfe00707f#64, .opcode, 0⟩,
  ⟨"th.vmsbc.vxm", 0, .xtheadvector, "Vd,Vt,s,V0", 0x4e004057#64, 0xfe00707f#64, .opcode, 0⟩]

def theadVectorInsns3 : List RiscvOpcodeRow := [
  ⟨"th.vnot.v", 0, .xtheadvector, "Vd,VtVm", 0x2c0fb057#64, 0xfc0ff07f#64, .opcode, insnAlias⟩,
  ⟨"th.vand.vv", 0, .xtheadvector, "Vd,Vt,VsVm", 0x24000057#64, 0xfc00707f#64, .opcode, 0⟩,
  ⟨"th.vand.vx", 0, .xtheadvector, "Vd,Vt,sVm", 0x24004057#64, 0xfc00707f#64, .opcode, 0⟩,
  ⟨"th.vand.vi", 0, .xtheadvector, "Vd,Vt,ViVm", 0x24003057#64, 0xfc00707f#64, .opcode, 0⟩,
  ⟨"th.vor.vv", 0, .xtheadvector, "Vd,Vt,VsVm", 0x28000057#64, 0xfc00707f#64, .opcode, 0⟩,
  ⟨"th.vor.vx", 0, .xtheadvector, "Vd,Vt,sVm", 0x28004057#64, 0xfc00707f#64, .opcode, 0⟩,
  ⟨"th.vor.vi", 0, .xtheadvector, "Vd,Vt,ViVm", 0x28003057#64, 0xfc00707f#64, .opcode, 0⟩,
  ⟨"th.vxor.vv", 0, .xtheadvector, "Vd,Vt,VsVm", 0x2c000057#64, 0xfc00707f#64, .opcode, 0⟩,
  ⟨"th.vxor.vx", 0, .xtheadvector, "Vd,Vt,sVm", 0x2c004057#64, 0xfc00707f#64, .opcode, 0⟩,
  ⟨"th.vxor.vi", 0, .xtheadvector, "Vd,Vt,ViVm", 0x2c003057#64, 0xfc00707f#64, .opcode, 0⟩,
  ⟨"th.vsll.vv", 0, .xtheadvector, "Vd,Vt,VsVm", 0x94000057#64, 0xfc00707f#64, .opcode, 0⟩,
  ⟨"th.vsll.vx", 0, .xtheadvector, "Vd,Vt,sVm", 0x94004057#64, 0xfc00707f#64, .opcode, 0⟩,
  ⟨"th.vsll.vi", 0, .xtheadvector, "Vd,Vt,VjVm", 0x94003057#64, 0xfc00707f#64, .opcode, 0⟩,
  ⟨"th.vsrl.vv", 0, .xtheadvector, "Vd,Vt,VsVm", 0xa0000057#64, 0xfc00707f#64, .opcode, 0⟩,
  ⟨"th.vsrl.vx", 0, .xtheadvector, "Vd,Vt,sVm", 0xa0004057#64, 0xfc00707f#64, .opcode, 0⟩,
  ⟨"th.vsrl.vi", 0, .xtheadvector, "Vd,Vt,VjVm", 0xa0003057#64, 0xfc00707f#64, .opcode, 0⟩,
  ⟨"th.vsra.vv", 0, .xtheadvector, "Vd,Vt,VsVm", 0xa4000057#64, 0xfc00707f#64, .opcode, 0⟩,
  ⟨"th.vsra.vx", 0, .xtheadvector, "Vd,Vt,sVm", 0xa4004057#64, 0xfc00707f#64, .opcode, 0⟩,
  ⟨"th.vsra.vi", 0, .xtheadvector, "Vd,Vt,VjVm", 0xa4003057#64, 0xfc00707f#64, .opcode, 0⟩,
  ⟨"th.vncvt.x.x.v", 0, .xtheadvector, "Vd,VtVm", 0xb0004057#64, 0xfc0ff07f#64, .opcode, insnAlias⟩,
  ⟨"th.vnsrl.vv", 0, .xtheadvector, "Vd,Vt,VsVm", 0xb0000057#64, 0xfc00707f#64, .opcode, 0⟩,
  ⟨"th.vnsrl.vx", 0, .xtheadvector, "Vd,Vt,sVm", 0xb0004057#64, 0xfc00707f#64, .opcode, 0⟩,
  ⟨"th.vnsrl.vi", 0, .xtheadvector, "Vd,Vt,VjVm", 0xb0003057#64, 0xfc00707f#64, .opcode, 0⟩,
  ⟨"th.vnsra.vv", 0, .xtheadvector, "Vd,Vt,VsVm", 0xb4000057#64, 0xfc00707f#64, .opcode, 0⟩,
  ⟨"th.vnsra.vx", 0, .xtheadvector, "Vd,Vt,sVm", 0xb4004057#64, 0xfc00707f#64, .opcode, 0⟩,
  ⟨"th.vnsra.vi", 0, .xtheadvector, "Vd,Vt,VjVm", 0xb4003057#64, 0xfc00707f#64, .opcode, 0⟩,
  ⟨"th.vmseq.vv", 0, .xtheadvector, "Vd,Vt,VsVm", 0x60000057#64, 0xfc00707f#64, .opcode, 0⟩,
  ⟨"th.vmseq.vx", 0, .xtheadvector, "Vd,Vt,sVm", 0x60004057#64, 0xfc00707f#64, .opcode, 0⟩,
  ⟨"th.vmseq.vi", 0, .xtheadvector, "Vd,Vt,ViVm", 0x60003057#64, 0xfc00707f#64, .opcode, 0⟩,
  ⟨"th.vmsne.vv", 0, .xtheadvector, "Vd,Vt,VsVm", 0x64000057#64, 0xfc00707f#64, .opcode, 0⟩,
  ⟨"th.vmsne.vx", 0, .xtheadvector, "Vd,Vt,sVm", 0x64004057#64, 0xfc00707f#64, .opcode, 0⟩,
  ⟨"th.vmsne.vi", 0, .xtheadvector, "Vd,Vt,ViVm", 0x64003057#64, 0xfc00707f#64, .opcode, 0⟩,
  ⟨"th.vmsltu.vv", 0, .xtheadvector, "Vd,Vt,VsVm", 0x68000057#64, 0xfc00707f#64, .opcode, 0⟩,
  ⟨"th.vmsltu.vx", 0, .xtheadvector, "Vd,Vt,sVm", 0x68004057#64, 0xfc00707f#64, .opcode, 0⟩,
  ⟨"th.vmslt.vv", 0, .xtheadvector, "Vd,Vt,VsVm", 0x6c000057#64, 0xfc00707f#64, .opcode, 0⟩,
  ⟨"th.vmslt.vx", 0, .xtheadvector, "Vd,Vt,sVm", 0x6c004057#64, 0xfc00707f#64, .opcode, 0⟩,
  ⟨"th.vmsleu.vv", 0, .xtheadvector, "Vd,Vt,VsVm", 0x70000057#64, 0xfc00707f#64, .opcode, 0⟩,
  ⟨"th.vmsleu.vx", 0, .xtheadvector, "Vd,Vt,sVm", 0x70004057#64, 0xfc00707f#64, .opcode, 0⟩,
  ⟨"th.vmsleu.vi", 0, .xtheadvector, "Vd,Vt,ViVm", 0x70003057#64, 0xfc00707f#64, .opcode, 0⟩,
  ⟨"th.vmsle.vv", 0, .xtheadvector, "Vd,Vt,VsVm", 0x74000057#64, 0xfc00707f#64, .opcode, 0⟩,
  ⟨"th.vmsle.vx", 0, .xtheadvector, "Vd,Vt,sVm", 0x74004057#64, 0xfc00707f#64, .opcode, 0⟩,
  ⟨"th.vmsle.vi", 0, .xtheadvector, "Vd,Vt,ViVm", 0x74003057#64, 0xfc00707f#64, .opcode, 0⟩,
  ⟨"th.vmsgtu.vx", 0, .xtheadvector, "Vd,Vt,sVm", 0x78004057#64, 0xfc00707f#64, .opcode, 0⟩,
  ⟨"th.vmsgtu.vi", 0, .xtheadvector, "Vd,Vt,ViVm", 0x78003057#64, 0xfc00707f#64, .opcode, 0⟩,
  ⟨"th.vmsgt.vx", 0, .xtheadvector, "Vd,Vt,sVm", 0x7c004057#64, 0xfc00707f#64, .opcode, 0⟩,
  ⟨"th.vmsgt.vi", 0, .xtheadvector, "Vd,Vt,ViVm", 0x7c003057#64, 0xfc00707f#64, .opcode, 0⟩,
  ⟨"th.vmsgt.vv", 0, .xtheadvector, "Vd,Vs,VtVm", 0x6c000057#64, 0xfc00707f#64, .opcode, insnAlias⟩,
  ⟨"th.vmsgtu.vv", 0, .xtheadvector, "Vd,Vs,VtVm", 0x68000057#64, 0xfc00707f#64, .opcode, insnAlias⟩,
  ⟨"th.vmsge.vv", 0, .xtheadvector, "Vd,Vs,VtVm", 0x74000057#64, 0xfc00707f#64, .opcode, insnAlias⟩,
  ⟨"th.vmsgeu.vv", 0, .xtheadvector, "Vd,Vs,VtVm", 0x70000057#64, 0xfc00707f#64, .opcode, insnAlias⟩,
  ⟨"th.vmslt.vi", 0, .xtheadvector, "Vd,Vt,VkVm", 0x74003057#64, 0xfc00707f#64, .opcode, insnAlias⟩,
  ⟨"th.vmsltu.vi", 0, .xtheadvector, "Vd,Vt,VkVm", 0x70003057#64, 0xfc00707f#64, .opcode, insnAlias⟩,
  ⟨"th.vmsge.vi", 0, .xtheadvector, "Vd,Vt,VkVm", 0x7c003057#64, 0xfc00707f#64, .opcode, insnAlias⟩,
  ⟨"th.vmsgeu.vi", 0, .xtheadvector, "Vd,Vt,VkVm", 0x78003057#64, 0xfc00707f#64, .opcode, insnAlias⟩,
  ⟨"th.vmsge.vx", 0, .xtheadvector, "Vd,Vt,sVm", 0#64, 0xe#64, .null, insnMacro⟩,
  ⟨"th.vmsge.vx", 0, .xtheadvector, "Vd,Vt,s,VM,VT", 0#64, 0xe#64, .null, insnMacro⟩,
  ⟨"th.vmsgeu.vx", 0, .xtheadvector, "Vd,Vt,sVm", 0x1#64, 0xe#64, .null, insnMacro⟩,
  ⟨"th.vmsgeu.vx", 0, .xtheadvector, "Vd,Vt,s,VM,VT", 0x1#64, 0xe#64, .null, insnMacro⟩,
  ⟨"th.vminu.vv", 0, .xtheadvector, "Vd,Vt,VsVm", 0x10000057#64, 0xfc00707f#64, .opcode, 0⟩,
  ⟨"th.vminu.vx", 0, .xtheadvector, "Vd,Vt,sVm", 0x10004057#64, 0xfc00707f#64, .opcode, 0⟩,
  ⟨"th.vmin.vv", 0, .xtheadvector, "Vd,Vt,VsVm", 0x14000057#64, 0xfc00707f#64, .opcode, 0⟩,
  ⟨"th.vmin.vx", 0, .xtheadvector, "Vd,Vt,sVm", 0x14004057#64, 0xfc00707f#64, .opcode, 0⟩,
  ⟨"th.vmaxu.vv", 0, .xtheadvector, "Vd,Vt,VsVm", 0x18000057#64, 0xfc00707f#64, .opcode, 0⟩,
  ⟨"th.vmaxu.vx", 0, .xtheadvector, "Vd,Vt,sVm", 0x18004057#64, 0xfc00707f#64, .opcode, 0⟩,
  ⟨"th.vmax.vv", 0, .xtheadvector, "Vd,Vt,VsVm", 0x1c000057#64, 0xfc00707f#64, .opcode, 0⟩,
  ⟨"th.vmax.vx", 0, .xtheadvector, "Vd,Vt,sVm", 0x1c004057#64, 0xfc00707f#64, .opcode, 0⟩,
  ⟨"th.vmul.vv", 0, .xtheadvector, "Vd,Vt,VsVm", 0x94002057#64, 0xfc00707f#64, .opcode, 0⟩,
  ⟨"th.vmul.vx", 0, .xtheadvector, "Vd,Vt,sVm", 0x94006057#64, 0xfc00707f#64, .opcode, 0⟩,
  ⟨"th.vmulh.vv", 0, .xtheadvector, "Vd,Vt,VsVm", 0x9c002057#64, 0xfc00707f#64, .opcode, 0⟩,
  ⟨"th.vmulh.vx", 0, .xtheadvector, "Vd,Vt,sVm", 0x9c006057#64, 0xfc00707f#64, .opcode, 0⟩,
  ⟨"th.vmulhu.vv", 0, .xtheadvector, "Vd,Vt,VsVm", 0x90002057#64, 0xfc00707f#64, .opcode, 0⟩,
  ⟨"th.vmulhu.vx", 0, .xtheadvector, "Vd,Vt,sVm", 0x90006057#64, 0xfc00707f#64, .opcode, 0⟩,
  ⟨"th.vmulhsu.vv", 0, .xtheadvector, "Vd,Vt,VsVm", 0x98002057#64, 0xfc00707f#64, .opcode, 0⟩,
  ⟨"th.vmulhsu.vx", 0, .xtheadvector, "Vd,Vt,sVm", 0x98006057#64, 0xfc00707f#64, .opcode, 0⟩,
  ⟨"th.vwmul.vv", 0, .xtheadvector, "Vd,Vt,VsVm", 0xec002057#64, 0xfc00707f#64, .opcode, 0⟩,
  ⟨"th.vwmul.vx", 0, .xtheadvector, "Vd,Vt,sVm", 0xec006057#64, 0xfc00707f#64, .opcode, 0⟩,
  ⟨"th.vwmulu.vv", 0, .xtheadvector, "Vd,Vt,VsVm", 0xe0002057#64, 0xfc00707f#64, .opcode, 0⟩,
  ⟨"th.vwmulu.vx", 0, .xtheadvector, "Vd,Vt,sVm", 0xe0006057#64, 0xfc00707f#64, .opcode, 0⟩,
  ⟨"th.vwmulsu.vv", 0, .xtheadvector, "Vd,Vt,VsVm", 0xe8002057#64, 0xfc00707f#64, .opcode, 0⟩,
  ⟨"th.vwmulsu.vx", 0, .xtheadvector, "Vd,Vt,sVm", 0xe8006057#64, 0xfc00707f#64, .opcode, 0⟩,
  ⟨"th.vmacc.vv", 0, .xtheadvector, "Vd,Vs,VtVm", 0xb4002057#64, 0xfc00707f#64, .opcode, 0⟩,
  ⟨"th.vmacc.vx", 0, .xtheadvector, "Vd,s,VtVm", 0xb4006057#64, 0xfc00707f#64, .opcode, 0⟩,
  ⟨"th.vnmsac.vv", 0, .xtheadvector, "Vd,Vs,VtVm", 0xbc002057#64, 0xfc00707f#64, .opcode, 0⟩,
  ⟨"th.vnmsac.vx", 0, .xtheadvector, "Vd,s,VtVm", 0xbc006057#64, 0xfc00707f#64, .opcode, 0⟩,
  ⟨"th.vmadd.vv", 0, .xtheadvector, "Vd,Vs,VtVm", 0xa4002057#64, 0xfc00707f#64, .opcode, 0⟩,
  ⟨"th.vmadd.vx", 0, .xtheadvector, "Vd,s,VtVm", 0xa4006057#64, 0xfc00707f#64, .opcode, 0⟩,
  ⟨"th.vnmsub.vv", 0, .xtheadvector, "Vd,Vs,VtVm", 0xac002057#64, 0xfc00707f#64, .opcode, 0⟩,
  ⟨"th.vnmsub.vx", 0, .xtheadvector, "Vd,s,VtVm", 0xac006057#64, 0xfc00707f#64, .opcode, 0⟩,
  ⟨"th.vwmaccu.vv", 0, .xtheadvector, "Vd,Vs,VtVm", 0xf0002057#64, 0xfc00707f#64, .opcode, 0⟩,
  ⟨"th.vwmaccu.vx", 0, .xtheadvector, "Vd,s,VtVm", 0xf0006057#64, 0xfc00707f#64, .opcode, 0⟩,
  ⟨"th.vwmacc.vv", 0, .xtheadvector, "Vd,Vs,VtVm", 0xf4002057#64, 0xfc00707f#64, .opcode, 0⟩,
  ⟨"th.vwmacc.vx", 0, .xtheadvector, "Vd,s,VtVm", 0xf4006057#64, 0xfc00707f#64, .opcode, 0⟩,
  ⟨"th.vwmaccsu.vv", 0, .xtheadvector, "Vd,Vs,VtVm", 0xf8002057#64, 0xfc00707f#64, .opcode, 0⟩,
  ⟨"th.vwmaccsu.vx", 0, .xtheadvector, "Vd,s,VtVm", 0xf8006057#64, 0xfc00707f#64, .opcode, 0⟩,
  ⟨"th.vwmaccus.vx", 0, .xtheadvector, "Vd,s,VtVm", 0xfc006057#64, 0xfc00707f#64, .opcode, 0⟩,
  ⟨"th.vdivu.vv", 0, .xtheadvector, "Vd,Vt,VsVm", 0x80002057#64, 0xfc00707f#64, .opcode, 0⟩,
  ⟨"th.vdivu.vx", 0, .xtheadvector, "Vd,Vt,sVm", 0x80006057#64, 0xfc00707f#64, .opcode, 0⟩,
  ⟨"th.vdiv.vv", 0, .xtheadvector, "Vd,Vt,VsVm", 0x84002057#64, 0xfc00707f#64, .opcode, 0⟩,
  ⟨"th.vdiv.vx", 0, .xtheadvector, "Vd,Vt,sVm", 0x84006057#64, 0xfc00707f#64, .opcode, 0⟩,
  ⟨"th.vremu.vv", 0, .xtheadvector, "Vd,Vt,VsVm", 0x88002057#64, 0xfc00707f#64, .opcode, 0⟩,
  ⟨"th.vremu.vx", 0, .xtheadvector, "Vd,Vt,sVm", 0x88006057#64, 0xfc00707f#64, .opcode, 0⟩,
  ⟨"th.vrem.vv", 0, .xtheadvector, "Vd,Vt,VsVm", 0x8c002057#64, 0xfc00707f#64, .opcode, 0⟩,
  ⟨"th.vrem.vx", 0, .xtheadvector, "Vd,Vt,sVm", 0x8c006057#64, 0xfc00707f#64, .opcode, 0⟩,
  ⟨"th.vmerge.vvm", 0, .xtheadvector, "Vd,Vt,Vs,V0", 0x5c000057#64, 0xfe00707f#64, .opcode, 0⟩,
  ⟨"th.vmerge.vxm", 0, .xtheadvector, "Vd,Vt,s,V0", 0x5c004057#64, 0xfe00707f#64, .opcode, 0⟩,
  ⟨"th.vmerge.vim", 0, .xtheadvector, "Vd,Vt,Vi,V0", 0x5c003057#64, 0xfe00707f#64, .opcode, 0⟩,
  ⟨"th.vmv.v.v", 0, .xtheadvector, "Vd,Vs", 0x5e000057#64, 0xfff0707f#64, .opcode, 0⟩,
  ⟨"th.vmv.v.x", 0, .xtheadvector, "Vd,s", 0x5e004057#64, 0xfff0707f#64, .opcode, 0⟩,
  ⟨"th.vmv.v.i", 0, .xtheadvector, "Vd,Vi", 0x5e003057#64, 0xfff0707f#64, .opcode, 0⟩,
  ⟨"th.vsaddu.vv", 0, .xtheadvector, "Vd,Vt,VsVm", 0x80000057#64, 0xfc00707f#64, .opcode, 0⟩,
  ⟨"th.vsaddu.vx", 0, .xtheadvector, "Vd,Vt,sVm", 0x80004057#64, 0xfc00707f#64, .opcode, 0⟩,
  ⟨"th.vsaddu.vi", 0, .xtheadvector, "Vd,Vt,ViVm", 0x80003057#64, 0xfc00707f#64, .opcode, 0⟩,
  ⟨"th.vsadd.vv", 0, .xtheadvector, "Vd,Vt,VsVm", 0x84000057#64, 0xfc00707f#64, .opcode, 0⟩,
  ⟨"th.vsadd.vx", 0, .xtheadvector, "Vd,Vt,sVm", 0x84004057#64, 0xfc00707f#64, .opcode, 0⟩,
  ⟨"th.vsadd.vi", 0, .xtheadvector, "Vd,Vt,ViVm", 0x84003057#64, 0xfc00707f#64, .opcode, 0⟩,
  ⟨"th.vssubu.vv", 0, .xtheadvector, "Vd,Vt,VsVm", 0x88000057#64, 0xfc00707f#64, .opcode, 0⟩,
  ⟨"th.vssubu.vx", 0, .xtheadvector, "Vd,Vt,sVm", 0x88004057#64, 0xfc00707f#64, .opcode, 0⟩,
  ⟨"th.vssub.vv", 0, .xtheadvector, "Vd,Vt,VsVm", 0x8c000057#64, 0xfc00707f#64, .opcode, 0⟩,
  ⟨"th.vssub.vx", 0, .xtheadvector, "Vd,Vt,sVm", 0x8c004057#64, 0xfc00707f#64, .opcode, 0⟩,
  ⟨"th.vaadd.vv", 0, .xtheadvector, "Vd,Vt,VsVm", 0x90000057#64, 0xfc00707f#64, .opcode, 0⟩,
  ⟨"th.vaadd.vx", 0, .xtheadvector, "Vd,Vt,sVm", 0x90004057#64, 0xfc00707f#64, .opcode, 0⟩,
  ⟨"th.vaadd.vi", 0, .xtheadvector, "Vd,Vt,ViVm", 0x90003057#64, 0xfc00707f#64, .opcode, 0⟩,
  ⟨"th.vasub.vv", 0, .xtheadvector, "Vd,Vt,VsVm", 0x98000057#64, 0xfc00707f#64, .opcode, 0⟩,
  ⟨"th.vasub.vx", 0, .xtheadvector, "Vd,Vt,sVm", 0x98004057#64, 0xfc00707f#64, .opcode, 0⟩,
  ⟨"th.vsmul.vv", 0, .xtheadvector, "Vd,Vt,VsVm", 0x9c000057#64, 0xfc00707f#64, .opcode, 0⟩,
  ⟨"th.vsmul.vx", 0, .xtheadvector, "Vd,Vt,sVm", 0x9c004057#64, 0xfc00707f#64, .opcode, 0⟩,
  ⟨"th.vwsmaccu.vv", 0, .xtheadvector, "Vd,Vs,VtVm", 0xf0000057#64, 0xfc00707f#64, .opcode, 0⟩,
  ⟨"th.vwsmaccu.vx", 0, .xtheadvector, "Vd,s,VtVm", 0xf0004057#64, 0xfc00707f#64, .opcode, 0⟩,
  ⟨"th.vwsmacc.vv", 0, .xtheadvector, "Vd,Vs,VtVm", 0xf4000057#64, 0xfc00707f#64, .opcode, 0⟩,
  ⟨"th.vwsmacc.vx", 0, .xtheadvector, "Vd,s,VtVm", 0xf4004057#64, 0xfc00707f#64, .opcode, 0⟩,
  ⟨"th.vwsmaccsu.vv", 0, .xtheadvector, "Vd,Vs,VtVm", 0xf8000057#64, 0xfc00707f#64, .opcode, 0⟩,
  ⟨"th.vwsmaccsu.vx", 0, .xtheadvector, "Vd,s,VtVm", 0xf8004057#64, 0xfc00707f#64, .opcode, 0⟩,
  ⟨"th.vwsmaccus.vx", 0, .xtheadvector, "Vd,s,VtVm", 0xfc004057#64, 0xfc00707f#64, .opcode, 0⟩,
  ⟨"th.vssrl.vv", 0, .xtheadvector, "Vd,Vt,VsVm", 0xa8000057#64, 0xfc00707f#64, .opcode, 0⟩,
  ⟨"th.vssrl.vx", 0, .xtheadvector, "Vd,Vt,sVm", 0xa8004057#64, 0xfc00707f#64, .opcode, 0⟩,
  ⟨"th.vssrl.vi", 0, .xtheadvector, "Vd,Vt,VjVm", 0xa8003057#64, 0xfc00707f#64, .opcode, 0⟩,
  ⟨"th.vssra.vv", 0, .xtheadvector, "Vd,Vt,VsVm", 0xac000057#64, 0xfc00707f#64, .opcode, 0⟩,
  ⟨"th.vssra.vx", 0, .xtheadvector, "Vd,Vt,sVm", 0xac004057#64, 0xfc00707f#64, .opcode, 0⟩,
  ⟨"th.vssra.vi", 0, .xtheadvector, "Vd,Vt,VjVm", 0xac003057#64, 0xfc00707f#64, .opcode, 0⟩,
  ⟨"th.vnclipu.vv", 0, .xtheadvector, "Vd,Vt,VsVm", 0xb8000057#64, 0xfc00707f#64, .opcode, 0⟩,
  ⟨"th.vnclipu.vx", 0, .xtheadvector, "Vd,Vt,sVm", 0xb8004057#64, 0xfc00707f#64, .opcode, 0⟩,
  ⟨"th.vnclipu.vi", 0, .xtheadvector, "Vd,Vt,VjVm", 0xb8003057#64, 0xfc00707f#64, .opcode, 0⟩,
  ⟨"th.vnclip.vv", 0, .xtheadvector, "Vd,Vt,VsVm", 0xbc000057#64, 0xfc00707f#64, .opcode, 0⟩,
  ⟨"th.vnclip.vx", 0, .xtheadvector, "Vd,Vt,sVm", 0xbc004057#64, 0xfc00707f#64, .opcode, 0⟩,
  ⟨"th.vnclip.vi", 0, .xtheadvector, "Vd,Vt,VjVm", 0xbc003057#64, 0xfc00707f#64, .opcode, 0⟩,
  ⟨"th.vfadd.vv", 0, .xtheadvector, "Vd,Vt,VsVm", 0x1057#64, 0xfc00707f#64, .opcode, 0⟩,
  ⟨"th.vfadd.vf", 0, .xtheadvector, "Vd,Vt,SVm", 0x5057#64, 0xfc00707f#64, .opcode, 0⟩,
  ⟨"th.vfsub.vv", 0, .xtheadvector, "Vd,Vt,VsVm", 0x8001057#64, 0xfc00707f#64, .opcode, 0⟩,
  ⟨"th.vfsub.vf", 0, .xtheadvector, "Vd,Vt,SVm", 0x8005057#64, 0xfc00707f#64, .opcode, 0⟩,
  ⟨"th.vfrsub.vf", 0, .xtheadvector, "Vd,Vt,SVm", 0x9c005057#64, 0xfc00707f#64, .opcode, 0⟩,
  ⟨"th.vfwadd.vv", 0, .xtheadvector, "Vd,Vt,VsVm", 0xc0001057#64, 0xfc00707f#64, .opcode, 0⟩,
  ⟨"th.vfwadd.vf", 0, .xtheadvector, "Vd,Vt,SVm", 0xc0005057#64, 0xfc00707f#64, .opcode, 0⟩,
  ⟨"th.vfwsub.vv", 0, .xtheadvector, "Vd,Vt,VsVm", 0xc8001057#64, 0xfc00707f#64, .opcode, 0⟩,
  ⟨"th.vfwsub.vf", 0, .xtheadvector, "Vd,Vt,SVm", 0xc8005057#64, 0xfc00707f#64, .opcode, 0⟩,
  ⟨"th.vfwadd.wv", 0, .xtheadvector, "Vd,Vt,VsVm", 0xd0001057#64, 0xfc00707f#64, .opcode, 0⟩,
  ⟨"th.vfwsub.wv", 0, .xtheadvector, "Vd,Vt,VsVm", 0xd8001057#64, 0xfc00707f#64, .opcode, 0⟩,
  ⟨"th.vfwadd.wf", 0, .xtheadvector, "Vd,Vt,SVm", 0xd0005057#64, 0xfc00707f#64, .opcode, 0⟩,
  ⟨"th.vfwsub.wf", 0, .xtheadvector, "Vd,Vt,SVm", 0xd8005057#64, 0xfc00707f#64, .opcode, 0⟩,
  ⟨"th.vfmul.vv", 0, .xtheadvector, "Vd,Vt,VsVm", 0x90001057#64, 0xfc00707f#64, .opcode, 0⟩,
  ⟨"th.vfmul.vf", 0, .xtheadvector, "Vd,Vt,SVm", 0x90005057#64, 0xfc00707f#64, .opcode, 0⟩,
  ⟨"th.vfdiv.vv", 0, .xtheadvector, "Vd,Vt,VsVm", 0x80001057#64, 0xfc00707f#64, .opcode, 0⟩,
  ⟨"th.vfdiv.vf", 0, .xtheadvector, "Vd,Vt,SVm", 0x80005057#64, 0xfc00707f#64, .opcode, 0⟩,
  ⟨"th.vfrdiv.vf", 0, .xtheadvector, "Vd,Vt,SVm", 0x84005057#64, 0xfc00707f#64, .opcode, 0⟩,
  ⟨"th.vfwmul.vv", 0, .xtheadvector, "Vd,Vt,VsVm", 0xe0001057#64, 0xfc00707f#64, .opcode, 0⟩,
  ⟨"th.vfwmul.vf", 0, .xtheadvector, "Vd,Vt,SVm", 0xe0005057#64, 0xfc00707f#64, .opcode, 0⟩,
  ⟨"th.vfmadd.vv", 0, .xtheadvector, "Vd,Vs,VtVm", 0xa0001057#64, 0xfc00707f#64, .opcode, 0⟩,
  ⟨"th.vfmadd.vf", 0, .xtheadvector, "Vd,S,VtVm", 0xa0005057#64, 0xfc00707f#64, .opcode, 0⟩,
  ⟨"th.vfnmadd.vv", 0, .xtheadvector, "Vd,Vs,VtVm", 0xa4001057#64, 0xfc00707f#64, .opcode, 0⟩,
  ⟨"th.vfnmadd.vf", 0, .xtheadvector, "Vd,S,VtVm", 0xa4005057#64, 0xfc00707f#64, .opcode, 0⟩,
  ⟨"th.vfmsub.vv", 0, .xtheadvector, "Vd,Vs,VtVm", 0xa8001057#64, 0xfc00707f#64, .opcode, 0⟩,
  ⟨"th.vfmsub.vf", 0, .xtheadvector, "Vd,S,VtVm", 0xa8005057#64, 0xfc00707f#64, .opcode, 0⟩,
  ⟨"th.vfnmsub.vv", 0, .xtheadvector, "Vd,Vs,VtVm", 0xac001057#64, 0xfc00707f#64, .opcode, 0⟩,
  ⟨"th.vfnmsub.vf", 0, .xtheadvector, "Vd,S,VtVm", 0xac005057#64, 0xfc00707f#64, .opcode, 0⟩,
  ⟨"th.vfmacc.vv", 0, .xtheadvector, "Vd,Vs,VtVm", 0xb0001057#64, 0xfc00707f#64, .opcode, 0⟩,
  ⟨"th.vfmacc.vf", 0, .xtheadvector, "Vd,S,VtVm", 0xb0005057#64, 0xfc00707f#64, .opcode, 0⟩,
  ⟨"th.vfnmacc.vv", 0, .xtheadvector, "Vd,Vs,VtVm", 0xb4001057#64, 0xfc00707f#64, .opcode, 0⟩,
  ⟨"th.vfnmacc.vf", 0, .xtheadvector, "Vd,S,VtVm", 0xb4005057#64, 0xfc00707f#64, .opcode, 0⟩,
  ⟨"th.vfmsac.vv", 0, .xtheadvector, "Vd,Vs,VtVm", 0xb8001057#64, 0xfc00707f#64, .opcode, 0⟩,
  ⟨"th.vfmsac.vf", 0, .xtheadvector, "Vd,S,VtVm", 0xb8005057#64, 0xfc00707f#64, .opcode, 0⟩,
  ⟨"th.vfnmsac.vv", 0, .xtheadvector, "Vd,Vs,VtVm", 0xbc001057#64, 0xfc00707f#64, .opcode, 0⟩,
  ⟨"th.vfnmsac.vf", 0, .xtheadvector, "Vd,S,VtVm", 0xbc005057#64, 0xfc00707f#64, .opcode, 0⟩,
  ⟨"th.vfwmacc.vv", 0, .xtheadvector, "Vd,Vs,VtVm", 0xf0001057#64, 0xfc00707f#64, .opcode, 0⟩,
  ⟨"th.vfwmacc.vf", 0, .xtheadvector, "Vd,S,VtVm", 0xf0005057#64, 0xfc00707f#64, .opcode, 0⟩,
  ⟨"th.vfwnmacc.vv", 0, .xtheadvector, "Vd,Vs,VtVm", 0xf4001057#64, 0xfc00707f#64, .opcode, 0⟩,
  ⟨"th.vfwnmacc.vf", 0, .xtheadvector, "Vd,S,VtVm", 0xf4005057#64, 0xfc00707f#64, .opcode, 0⟩,
  ⟨"th.vfwmsac.vv", 0, .xtheadvector, "Vd,Vs,VtVm", 0xf8001057#64, 0xfc00707f#64, .opcode, 0⟩,
  ⟨"th.vfwmsac.vf", 0, .xtheadvector, "Vd,S,VtVm", 0xf8005057#64, 0xfc00707f#64, .opcode, 0⟩,
  ⟨"th.vfwnmsac.vv", 0, .xtheadvector, "Vd,Vs,VtVm", 0xfc001057#64, 0xfc00707f#64, .opcode, 0⟩,
  ⟨"th.vfwnmsac.vf", 0, .xtheadvector, "Vd,S,VtVm", 0xfc005057#64, 0xfc00707f#64, .opcode, 0⟩,
  ⟨"th.vfsqrt.v", 0, .xtheadvector, "Vd,VtVm", 0x8c001057#64, 0xfc0ff07f#64, .opcode, 0⟩]

def theadVectorInsns4 : List RiscvOpcodeRow := [
  ⟨"th.vfmin.vv", 0, .xtheadvector, "Vd,Vt,VsVm", 0x10001057#64, 0xfc00707f#64, .opcode, 0⟩,
  ⟨"th.vfmin.vf", 0, .xtheadvector, "Vd,Vt,SVm", 0x10005057#64, 0xfc00707f#64, .opcode, 0⟩,
  ⟨"th.vfmax.vv", 0, .xtheadvector, "Vd,Vt,VsVm", 0x18001057#64, 0xfc00707f#64, .opcode, 0⟩,
  ⟨"th.vfmax.vf", 0, .xtheadvector, "Vd,Vt,SVm", 0x18005057#64, 0xfc00707f#64, .opcode, 0⟩,
  ⟨"th.vfneg.v", 0, .xtheadvector, "Vd,VuVm", 0x24001057#64, 0xfc00707f#64, .vs1EqVs2, insnAlias⟩,
  ⟨"th.vfabs.v", 0, .xtheadvector, "Vd,VuVm", 0x28001057#64, 0xfc00707f#64, .vs1EqVs2, insnAlias⟩,
  ⟨"th.vfsgnj.vv", 0, .xtheadvector, "Vd,Vt,VsVm", 0x20001057#64, 0xfc00707f#64, .opcode, 0⟩,
  ⟨"th.vfsgnj.vf", 0, .xtheadvector, "Vd,Vt,SVm", 0x20005057#64, 0xfc00707f#64, .opcode, 0⟩,
  ⟨"th.vfsgnjn.vv", 0, .xtheadvector, "Vd,Vt,VsVm", 0x24001057#64, 0xfc00707f#64, .opcode, 0⟩,
  ⟨"th.vfsgnjn.vf", 0, .xtheadvector, "Vd,Vt,SVm", 0x24005057#64, 0xfc00707f#64, .opcode, 0⟩,
  ⟨"th.vfsgnjx.vv", 0, .xtheadvector, "Vd,Vt,VsVm", 0x28001057#64, 0xfc00707f#64, .opcode, 0⟩,
  ⟨"th.vfsgnjx.vf", 0, .xtheadvector, "Vd,Vt,SVm", 0x28005057#64, 0xfc00707f#64, .opcode, 0⟩,
  ⟨"th.vmfeq.vv", 0, .xtheadvector, "Vd,Vt,VsVm", 0x60001057#64, 0xfc00707f#64, .opcode, 0⟩,
  ⟨"th.vmfeq.vf", 0, .xtheadvector, "Vd,Vt,SVm", 0x60005057#64, 0xfc00707f#64, .opcode, 0⟩,
  ⟨"th.vmfne.vv", 0, .xtheadvector, "Vd,Vt,VsVm", 0x70001057#64, 0xfc00707f#64, .opcode, 0⟩,
  ⟨"th.vmfne.vf", 0, .xtheadvector, "Vd,Vt,SVm", 0x70005057#64, 0xfc00707f#64, .opcode, 0⟩,
  ⟨"th.vmflt.vv", 0, .xtheadvector, "Vd,Vt,VsVm", 0x6c001057#64, 0xfc00707f#64, .opcode, 0⟩,
  ⟨"th.vmflt.vf", 0, .xtheadvector, "Vd,Vt,SVm", 0x6c005057#64, 0xfc00707f#64, .opcode, 0⟩,
  ⟨"th.vmfle.vv", 0, .xtheadvector, "Vd,Vt,VsVm", 0x64001057#64, 0xfc00707f#64, .opcode, 0⟩,
  ⟨"th.vmfle.vf", 0, .xtheadvector, "Vd,Vt,SVm", 0x64005057#64, 0xfc00707f#64, .opcode, 0⟩,
  ⟨"th.vmfgt.vf", 0, .xtheadvector, "Vd,Vt,SVm", 0x74005057#64, 0xfc00707f#64, .opcode, 0⟩,
  ⟨"th.vmfge.vf", 0, .xtheadvector, "Vd,Vt,SVm", 0x7c005057#64, 0xfc00707f#64, .opcode, 0⟩,
  ⟨"th.vmfgt.vv", 0, .xtheadvector, "Vd,Vs,VtVm", 0x6c001057#64, 0xfc00707f#64, .opcode, insnAlias⟩,
  ⟨"th.vmfge.vv", 0, .xtheadvector, "Vd,Vs,VtVm", 0x64001057#64, 0xfc00707f#64, .opcode, insnAlias⟩,
  ⟨"th.vmford.vv", 0, .xtheadvector, "Vd,Vt,VsVm", 0x68001057#64, 0xfc00707f#64, .opcode, 0⟩,
  ⟨"th.vmford.vf", 0, .xtheadvector, "Vd,Vt,SVm", 0x68005057#64, 0xfc00707f#64, .opcode, 0⟩,
  ⟨"th.vfclass.v", 0, .xtheadvector, "Vd,VtVm", 0x8c081057#64, 0xfc0ff07f#64, .opcode, 0⟩,
  ⟨"th.vfmerge.vfm", 0, .xtheadvector, "Vd,Vt,S,V0", 0x5c005057#64, 0xfe00707f#64, .opcode, 0⟩,
  ⟨"th.vfmv.v.f", 0, .xtheadvector, "Vd,S", 0x5e005057#64, 0xfff0707f#64, .opcode, 0⟩,
  ⟨"th.vfcvt.xu.f.v", 0, .xtheadvector, "Vd,VtVm", 0x88001057#64, 0xfc0ff07f#64, .opcode, 0⟩,
  ⟨"th.vfcvt.x.f.v", 0, .xtheadvector, "Vd,VtVm", 0x88009057#64, 0xfc0ff07f#64, .opcode, 0⟩,
  ⟨"th.vfcvt.f.xu.v", 0, .xtheadvector, "Vd,VtVm", 0x88011057#64, 0xfc0ff07f#64, .opcode, 0⟩,
  ⟨"th.vfcvt.f.x.v", 0, .xtheadvector, "Vd,VtVm", 0x88019057#64, 0xfc0ff07f#64, .opcode, 0⟩,
  ⟨"th.vfwcvt.xu.f.v", 0, .xtheadvector, "Vd,VtVm", 0x88041057#64, 0xfc0ff07f#64, .opcode, 0⟩,
  ⟨"th.vfwcvt.x.f.v", 0, .xtheadvector, "Vd,VtVm", 0x88049057#64, 0xfc0ff07f#64, .opcode, 0⟩,
  ⟨"th.vfwcvt.f.xu.v", 0, .xtheadvector, "Vd,VtVm", 0x88051057#64, 0xfc0ff07f#64, .opcode, 0⟩,
  ⟨"th.vfwcvt.f.x.v", 0, .xtheadvector, "Vd,VtVm", 0x88059057#64, 0xfc0ff07f#64, .opcode, 0⟩,
  ⟨"th.vfwcvt.f.f.v", 0, .xtheadvector, "Vd,VtVm", 0x88061057#64, 0xfc0ff07f#64, .opcode, 0⟩,
  ⟨"th.vfncvt.xu.f.v", 0, .xtheadvector, "Vd,VtVm", 0x88081057#64, 0xfc0ff07f#64, .opcode, 0⟩,
  ⟨"th.vfncvt.x.f.v", 0, .xtheadvector, "Vd,VtVm", 0x88089057#64, 0xfc0ff07f#64, .opcode, 0⟩,
  ⟨"th.vfncvt.f.xu.v", 0, .xtheadvector, "Vd,VtVm", 0x88091057#64, 0xfc0ff07f#64, .opcode, 0⟩,
  ⟨"th.vfncvt.f.x.v", 0, .xtheadvector, "Vd,VtVm", 0x88099057#64, 0xfc0ff07f#64, .opcode, 0⟩,
  ⟨"th.vfncvt.f.f.v", 0, .xtheadvector, "Vd,VtVm", 0x880a1057#64, 0xfc0ff07f#64, .opcode, 0⟩,
  ⟨"th.vredsum.vs", 0, .xtheadvector, "Vd,Vt,VsVm", 0x2057#64, 0xfc00707f#64, .opcode, 0⟩,
  ⟨"th.vredmaxu.vs", 0, .xtheadvector, "Vd,Vt,VsVm", 0x18002057#64, 0xfc00707f#64, .opcode, 0⟩,
  ⟨"th.vredmax.vs", 0, .xtheadvector, "Vd,Vt,VsVm", 0x1c002057#64, 0xfc00707f#64, .opcode, 0⟩,
  ⟨"th.vredminu.vs", 0, .xtheadvector, "Vd,Vt,VsVm", 0x10002057#64, 0xfc00707f#64, .opcode, 0⟩,
  ⟨"th.vredmin.vs", 0, .xtheadvector, "Vd,Vt,VsVm", 0x14002057#64, 0xfc00707f#64, .opcode, 0⟩,
  ⟨"th.vredand.vs", 0, .xtheadvector, "Vd,Vt,VsVm", 0x4002057#64, 0xfc00707f#64, .opcode, 0⟩,
  ⟨"th.vredor.vs", 0, .xtheadvector, "Vd,Vt,VsVm", 0x8002057#64, 0xfc00707f#64, .opcode, 0⟩,
  ⟨"th.vredxor.vs", 0, .xtheadvector, "Vd,Vt,VsVm", 0xc002057#64, 0xfc00707f#64, .opcode, 0⟩,
  ⟨"th.vwredsumu.vs", 0, .xtheadvector, "Vd,Vt,VsVm", 0xc0000057#64, 0xfc00707f#64, .opcode, 0⟩,
  ⟨"th.vwredsum.vs", 0, .xtheadvector, "Vd,Vt,VsVm", 0xc4000057#64, 0xfc00707f#64, .opcode, 0⟩,
  ⟨"th.vfredosum.vs", 0, .xtheadvector, "Vd,Vt,VsVm", 0xc001057#64, 0xfc00707f#64, .opcode, 0⟩,
  ⟨"th.vfredsum.vs", 0, .xtheadvector, "Vd,Vt,VsVm", 0x4001057#64, 0xfc00707f#64, .opcode, 0⟩,
  ⟨"th.vfredmax.vs", 0, .xtheadvector, "Vd,Vt,VsVm", 0x1c001057#64, 0xfc00707f#64, .opcode, 0⟩,
  ⟨"th.vfredmin.vs", 0, .xtheadvector, "Vd,Vt,VsVm", 0x14001057#64, 0xfc00707f#64, .opcode, 0⟩,
  ⟨"th.vfwredosum.vs", 0, .xtheadvector, "Vd,Vt,VsVm", 0xcc001057#64, 0xfc00707f#64, .opcode, 0⟩,
  ⟨"th.vfwredsum.vs", 0, .xtheadvector, "Vd,Vt,VsVm", 0xc4001057#64, 0xfc00707f#64, .opcode, 0⟩,
  ⟨"th.vmcpy.m", 0, .xtheadvector, "Vd,Vu", 0x66002057#64, 0xfe00707f#64, .vs1EqVs2, insnAlias⟩,
  ⟨"th.vmmv.m", 0, .xtheadvector, "Vd,Vu", 0x66002057#64, 0xfe00707f#64, .vs1EqVs2, insnAlias⟩,
  ⟨"th.vmclr.m", 0, .xtheadvector, "Vv", 0x6e002057#64, 0xfe00707f#64, .vdEqVs1EqVs2, insnAlias⟩,
  ⟨"th.vmset.m", 0, .xtheadvector, "Vv", 0x7e002057#64, 0xfe00707f#64, .vdEqVs1EqVs2, insnAlias⟩,
  ⟨"th.vmnot.m", 0, .xtheadvector, "Vd,Vu", 0x76002057#64, 0xfe00707f#64, .vs1EqVs2, insnAlias⟩,
  ⟨"th.vmand.mm", 0, .xtheadvector, "Vd,Vt,Vs", 0x66002057#64, 0xfe00707f#64, .opcode, 0⟩,
  ⟨"th.vmnand.mm", 0, .xtheadvector, "Vd,Vt,Vs", 0x76002057#64, 0xfe00707f#64, .opcode, 0⟩,
  ⟨"th.vmandnot.mm", 0, .xtheadvector, "Vd,Vt,Vs", 0x62002057#64, 0xfe00707f#64, .opcode, 0⟩,
  ⟨"th.vmxor.mm", 0, .xtheadvector, "Vd,Vt,Vs", 0x6e002057#64, 0xfe00707f#64, .opcode, 0⟩,
  ⟨"th.vmor.mm", 0, .xtheadvector, "Vd,Vt,Vs", 0x6a002057#64, 0xfe00707f#64, .opcode, 0⟩,
  ⟨"th.vmnor.mm", 0, .xtheadvector, "Vd,Vt,Vs", 0x7a002057#64, 0xfe00707f#64, .opcode, 0⟩,
  ⟨"th.vmornot.mm", 0, .xtheadvector, "Vd,Vt,Vs", 0x72002057#64, 0xfe00707f#64, .opcode, 0⟩,
  ⟨"th.vmxnor.mm", 0, .xtheadvector, "Vd,Vt,Vs", 0x7e002057#64, 0xfe00707f#64, .opcode, 0⟩,
  ⟨"th.vmpopc.m", 0, .xtheadvector, "d,VtVm", 0x50002057#64, 0xfc0ff07f#64, .opcode, 0⟩,
  ⟨"th.vmfirst.m", 0, .xtheadvector, "d,VtVm", 0x54002057#64, 0xfc0ff07f#64, .opcode, 0⟩,
  ⟨"th.vmsbf.m", 0, .xtheadvector, "Vd,VtVm", 0x5800a057#64, 0xfc0ff07f#64, .opcode, 0⟩,
  ⟨"th.vmsif.m", 0, .xtheadvector, "Vd,VtVm", 0x5801a057#64, 0xfc0ff07f#64, .opcode, 0⟩,
  ⟨"th.vmsof.m", 0, .xtheadvector, "Vd,VtVm", 0x58012057#64, 0xfc0ff07f#64, .opcode, 0⟩,
  ⟨"th.viota.m", 0, .xtheadvector, "Vd,VtVm", 0x58082057#64, 0xfc0ff07f#64, .opcode, 0⟩,
  ⟨"th.vid.v", 0, .xtheadvector, "VdVm", 0x5808a057#64, 0xfdfff07f#64, .opcode, 0⟩,
  ⟨"th.vmv.x.s", 0, .xtheadvector, "d,Vt", 0x32002057#64, 0xfe0ff07f#64, .opcode, insnAlias⟩,
  ⟨"th.vext.x.v", 0, .xtheadvector, "d,Vt,s", 0x32002057#64, 0xfe00707f#64, .opcode, 0⟩,
  ⟨"th.vmv.s.x", 0, .xtheadvector, "Vd,s", 0x36006057#64, 0xfff0707f#64, .opcode, 0⟩,
  ⟨"th.vfmv.f.s", 0, .xtheadvector, "D,Vt", 0x32001057#64, 0xfe0ff07f#64, .opcode, 0⟩,
  ⟨"th.vfmv.s.f", 0, .xtheadvector, "Vd,S", 0x36005057#64, 0xfff0707f#64, .opcode, 0⟩,
  ⟨"th.vslideup.vx", 0, .xtheadvector, "Vd,Vt,sVm", 0x38004057#64, 0xfc00707f#64, .opcode, 0⟩,
  ⟨"th.vslideup.vi", 0, .xtheadvector, "Vd,Vt,VjVm", 0x38003057#64, 0xfc00707f#64, .opcode, 0⟩,
  ⟨"th.vslidedown.vx", 0, .xtheadvector, "Vd,Vt,sVm", 0x3c004057#64, 0xfc00707f#64, .opcode, 0⟩,
  ⟨"th.vslidedown.vi", 0, .xtheadvector, "Vd,Vt,VjVm", 0x3c003057#64, 0xfc00707f#64, .opcode, 0⟩,
  ⟨"th.vslide1up.vx", 0, .xtheadvector, "Vd,Vt,sVm", 0x38006057#64, 0xfc00707f#64, .opcode, 0⟩,
  ⟨"th.vslide1down.vx", 0, .xtheadvector, "Vd,Vt,sVm", 0x3c006057#64, 0xfc00707f#64, .opcode, 0⟩,
  ⟨"th.vrgather.vv", 0, .xtheadvector, "Vd,Vt,VsVm", 0x30000057#64, 0xfc00707f#64, .opcode, 0⟩,
  ⟨"th.vrgather.vx", 0, .xtheadvector, "Vd,Vt,sVm", 0x30004057#64, 0xfc00707f#64, .opcode, 0⟩,
  ⟨"th.vrgather.vi", 0, .xtheadvector, "Vd,Vt,VjVm", 0x30003057#64, 0xfc00707f#64, .opcode, 0⟩,
  ⟨"th.vcompress.vm", 0, .xtheadvector, "Vd,Vt,Vs", 0x5e002057#64, 0xfe00707f#64, .opcode, 0⟩]

def theadVectorInsns : List RiscvOpcodeRow :=
  theadVectorInsns1 ++ theadVectorInsns2 ++ theadVectorInsns3 ++ theadVectorInsns4

/-- XVentanaCondOps instructions. -/
def ventanaInsns : List RiscvOpcodeRow := [
  ⟨"vt.maskc", 64, .xventanacondops, "d,s,t", 0x607b#64, 0xfe00707f#64, .opcode, 0⟩,
  ⟨"vt.maskcn", 64, .xventanacondops, "d,s,t", 0x707b#64, 0xfe00707f#64, .opcode, 0⟩]

/-- SiFive vector coprocessor interface instructions. -/
def sifiveInsns : List RiscvOpcodeRow := [
  ⟨"sf.vc.x", 0, .xsfvcp, "XsO2,Xst,Xsd,s", 0x200405b#64, 0xf200707f#64, .opcode, 0⟩,
  ⟨"sf.vc.v.x", 0, .xsfvcp, "XsO2,Xst,Vd,s", 0x405b#64, 0xf200707f#64, .opcode, 0⟩,
  ⟨"sf.vc.i", 0, .xsfvcp, "XsO2,Xst,Xsd,Vi", 0x200305b#64, 0xf200707f#64, .opcode, 0⟩,
  ⟨"sf.vc.v.i", 0, .xsfvcp, "XsO2,Xst,Vd,Vi", 0x305b#64, 0xf200707f#64, .opcode, 0⟩,
  ⟨"sf.vc.vv", 0, .xsfvcp, "XsO2,Xsd,Vt,Vs", 0x2200005b#64, 0xf200707f#64, .opcode, 0⟩,
  ⟨"sf.vc.v.vv", 0, .xsfvcp, "XsO2,Vd,Vt,Vs", 0x2000005b#64, 0xf200707f#64, .opcode, 0⟩,
  ⟨"sf.vc.xv", 0, .xsfvcp, "XsO2,Xsd,Vt,s", 0x2200405b#64, 0xf200707f#64, .opcode, 0⟩,
  ⟨"sf.vc.v.xv", 0, .xsfvcp, "XsO2,Vd,Vt,s", 0x2000405b#64, 0xf200707f#64, .opcode, 0⟩,
  ⟨"sf.vc.iv", 0, .xsfvcp, "XsO2,Xsd,Vt,Vi", 0x2200305b#64, 0xf200707f#64, .opcode, 0⟩,
  ⟨"sf.vc.v.iv", 0, .xsfvcp, "XsO2,Vd,Vt,Vi", 0x2000305b#64, 0xf200707f#64, .opcode, 0⟩,
  ⟨"sf.vc.fv", 0, .xsfvcp, "XsO1,Xsd,Vt,S", 0x2a00505b#64, 0xfa00707f#64, .opcode, 0⟩,
  ⟨"sf.vc.v.fv", 0, .xsfvcp, "XsO1,Vd,Vt,S", 0x2800505b#64, 0xfa00707f#64, .opcode, 0⟩,
  ⟨"sf.vc.vvv", 0, .xsfvcp, "XsO2,Vd,Vt,Vs", 0xa200005b#64, 0xf200707f#64, .opcode, 0⟩,
  ⟨"sf.vc.v.vvv", 0, .xsfvcp, "XsO2,Vd,Vt,Vs", 0xa000005b#64, 0xf200707f#64, .opcode, 0⟩,
  ⟨"sf.vc.xvv", 0, .xsfvcp, "XsO2,Vd,Vt,s", 0xa200405b#64, 0xf200707f#64, .opcode, 0⟩,
  ⟨"sf.vc.v.xvv", 0, .xsfvcp, "XsO2,Vd,Vt,s", 0xa000405b#64, 0xf200707f#64, .opcode, 0⟩,
  ⟨"sf.vc.ivv", 0, .xsfvcp, "XsO2,Vd,Vt,Vi", 0xa200305b#64, 0xf200707f#64, .opcode, 0⟩,
  ⟨"sf.vc.v.ivv", 0, .xsfvcp, "XsO2,Vd,Vt,Vi", 0xa000305b#64, 0xf200707f#64, .opcode, 0⟩,
  ⟨"sf.vc.fvv", 0, .xsfvcp, "XsO1,Vd,Vt,S", 0xaa00505b#64, 0xfa00707f#64, .opcode, 0⟩,
  ⟨"sf.vc.v.fvv", 0, .xsfvcp, "XsO1,Vd,Vt,S", 0xa800505b#64, 0xfa00707f#64, .opcode, 0⟩,
  ⟨"sf.vc.vvw", 0, .xsfvcp, "XsO2,Vd,Vt,Vs", 0xf200005b#64, 0xf200707f#64, .opcode, 0⟩,
  ⟨"sf.vc.v.vvw", 0, .xsfvcp, "XsO2,Vd,Vt,Vs", 0xf000005b#64, 0xf200707f#64, .opcode, 0⟩,
  ⟨"sf.vc.xvw", 0, .xsfvcp, "XsO2,Vd,Vt,s", 0xf200405b#64, 0xf200707f#64, .opcode, 0⟩,
  ⟨"sf.vc.v.xvw", 0, .xsfvcp, "XsO2,Vd,Vt,s", 0xf000405b#64, 0xf200707f#64, .opcode, 0⟩,
  ⟨"sf.vc.ivw", 0, .xsfvcp, "XsO2,Vd,Vt,Vi", 0xf200305b#64, 0xf200707f#64, .opcode, 0⟩,
  ⟨"sf.vc.v.ivw", 0, .xsfvcp, "XsO2,Vd,Vt,Vi", 0xf000305b#64, 0xf200707f#64, .opcode, 0⟩,
  ⟨"sf.vc.fvw", 0, .xsfvcp, "XsO1,Vd,Vt,S", 0xfa00505b#64, 0xfa00707f#64, .opcode, 0⟩,
  ⟨"sf.vc.v.fvw", 0, .xsfvcp, "XsO1,Vd,Vt,S", 0xf800505b#64, 0xfa00707f#64, .opcode, 0⟩]

end RiscvBinutils.Opcode
