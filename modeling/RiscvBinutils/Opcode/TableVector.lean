/-
The vector instructions of the table `riscv_opcodes` (opcodes/riscv-opc.c).
-/
import RiscvBinutils.Opcode.Row

namespace RiscvBinutils.Opcode

/-- RVV instructions. -/
def vectorInsns1 : List RiscvOpcodeRow := [
  ⟨"vsetvl", 0, .v, "d,s,t", 0x80007057#64, 0xfe00707f#64, .opcode, 0⟩,
  ⟨"vsetvli", 0, .v, "d,s,Vc", 0x7057#64, 0x8000707f#64, .opcode, 0⟩,
  ⟨"vsetivli", 0, .v, "d,Z,Vb", 0xc0007057#64, 0xc000707f#64, .opcode, 0⟩,
  ⟨"vlm.v", 0, .v, "Vd,0(s)", 0x2b00007#64, 0xfff0707f#64, .opcode, insnDref⟩,
  ⟨"vsm.v", 0, .v, "Vd,0(s)", 0x2b00027#64, 0xfff0707f#64, .opcode, insnDref⟩,
  ⟨"vle1.v", 0, .v, "Vd,0(s)", 0x2b00007#64, 0xfff0707f#64, .opcode, insnDref ||| insnAlias⟩,
  ⟨"vse1.v", 0, .v, "Vd,0(s)", 0x2b00027#64, 0xfff0707f#64, .opcode, insnDref ||| insnAlias⟩,
  ⟨"vle8.v", 0, .v, "Vd,0(s)Vm", 0x7#64, 0xfdf0707f#64, .opcode, insnDref⟩,
  ⟨"vle16.v", 0, .v, "Vd,0(s)Vm", 0x5007#64, 0xfdf0707f#64, .opcode, insnDref⟩,
  ⟨"vle32.v", 0, .v, "Vd,0(s)Vm", 0x6007#64, 0xfdf0707f#64, .opcode, insnDref⟩,
  ⟨"vle64.v", 0, .v, "Vd,0(s)Vm", 0x7007#64, 0xfdf0707f#64, .opcode, insnDref ||| insnVEew64⟩,
  ⟨"vse8.v", 0, .v, "Vd,0(s)Vm", 0x27#64, 0xfdf0707f#64, .opcode, insnDref⟩,
  ⟨"vse16.v", 0, .v, "Vd,0(s)Vm", 0x5027#64, 0xfdf0707f#64, .opcode, insnDref⟩,
  ⟨"vse32.v", 0, .v, "Vd,0(s)Vm", 0x6027#64, 0xfdf0707f#64, .opcode, insnDref⟩,
  ⟨"vse64.v", 0, .v, "Vd,0(s)Vm", 0x7027#64, 0xfdf0707f#64, .opcode, insnDref ||| insnVEew64⟩,
  ⟨"vlse8.v", 0, .v, "Vd,0(s),tVm", 0x8000007#64, 0xfc00707f#64, .opcode, insnDref⟩,
  ⟨"vlse16.v", 0, .v, "Vd,0(s),tVm", 0x8005007#64, 0xfc00707f#64, .opcode, insnDref⟩,
  ⟨"vlse32.v", 0, .v, "Vd,0(s),tVm", 0x8006007#64, 0xfc00707f#64, .opcode, insnDref⟩,
  ⟨"vlse64.v", 0, .v, "Vd,0(s),tVm", 0x8007007#64, 0xfc00707f#64, .opcode, insnDref ||| insnVEew64⟩,
  ⟨"vsse8.v", 0, .v, "Vd,0(s),tVm", 0x8000027#64, 0xfc00707f#64, .opcode, insnDref⟩,
  ⟨"vsse16.v", 0, .v, "Vd,0(s),tVm", 0x8005027#64, 0xfc00707f#64, .opcode, insnDref⟩,
  ⟨"vsse32.v", 0, .v, "Vd,0(s),tVm", 0x8006027#64, 0xfc00707f#64, .opcode, insnDref⟩,
  ⟨"vsse64.v", 0, .v, "Vd,0(s),tVm", 0x8007027#64, 0xfc00707f#64, .opcode, insnDref ||| insnVEew64⟩,
  ⟨"vloxei8.v", 0, .v, "Vd,0(s),VtVm", 0xc000007#64, 0xfc00707f#64, .opcode, insnDref⟩,
  ⟨"vloxei16.v", 0, .v, "Vd,0(s),VtVm", 0xc005007#64, 0xfc00707f#64, .opcode, insnDref⟩,
  ⟨"vloxei32.v", 0, .v, "Vd,0(s),VtVm", 0xc006007#64, 0xfc00707f#64, .opcode, insnDref⟩,
  ⟨"vloxei64.v", 0, .v, "Vd,0(s),VtVm", 0xc007007#64, 0xfc00707f#64, .opcode, insnDref ||| insnVEew64⟩,
  ⟨"vsoxei8.v", 0, .v, "Vd,0(s),VtVm", 0xc000027#64, 0xfc00707f#64, .opcode, insnDref⟩,
  ⟨"vsoxei16.v", 0, .v, "Vd,0(s),VtVm", 0xc005027#64, 0xfc00707f#64, .opcode, insnDref⟩,
  ⟨"vsoxei32.v", 0, .v, "Vd,0(s),VtVm", 0xc006027#64, 0xfc00707f#64, .opcode, insnDref⟩,
  ⟨"vsoxei64.v", 0, .v, "Vd,0(s),VtVm", 0xc007027#64, 0xfc00707f#64, .opcode, insnDref ||| insnVEew64⟩,
  ⟨"vluxei8.v", 0, .v, "Vd,0(s),VtVm", 0x4000007#64, 0xfc00707f#64, .opcode, insnDref⟩,
  ⟨"vluxei16.v", 0, .v, "Vd,0(s),VtVm", 0x4005007#64, 0xfc00707f#64, .opcode, insnDref⟩,
  ⟨"vluxei32.v", 0, .v, "Vd,0(s),VtVm", 0x4006007#64, 0xfc00707f#64, .opcode, insnDref⟩,
  ⟨"vluxei64.v", 0, .v, "Vd,0(s),VtVm", 0x4007007#64, 0xfc00707f#64, .opcode, insnDref ||| insnVEew64⟩,
  ⟨"vsuxei8.v", 0, .v, "Vd,0(s),VtVm", 0x4000027#64, 0xfc00707f#64, .opcode, insnDref⟩,
  ⟨"vsuxei16.v", 0, .v, "Vd,0(s),VtVm", 0x4005027#64, 0xfc00707f#64, .opcode, insnDref⟩,
  ⟨"vsuxei32.v", 0, .v, "Vd,0(s),VtVm", 0x4006027#64, 0xfc00707f#64, .opcode, insnDref⟩,
  ⟨"vsuxei64.v", 0, .v, "Vd,0(s),VtVm", 0x4007027#64, 0xfc00707f#64, .opcode, insnDref ||| insnVEew64⟩,
  ⟨"vle8ff.v", 0, .v, "Vd,0(s)Vm", 0x1000007#64, 0xfdf0707f#64, .opcode, insnDref⟩,
  ⟨"vle16ff.v", 0, .v, "Vd,0(s)Vm", 0x1005007#64, 0xfdf0707f#64, .opcode, insnDref⟩,
  ⟨"vle32ff.v", 0, .v, "Vd,0(s)Vm", 0x1006007#64, 0xfdf0707f#64, .opcode, insnDref⟩,
  ⟨"vle64ff.v", 0, .v, "Vd,0(s)Vm", 0x1007007#64, 0xfdf0707f#64, .opcode, insnDref ||| insnVEew64⟩,
  ⟨"vlseg2e8.v", 0, .v, "Vd,0(s)Vm", 0x20000007#64, 0xfdf0707f#64, .opcode, insnDref⟩,
  ⟨"vsseg2e8.v", 0, .v, "Vd,0(s)Vm", 0x20000027#64, 0xfdf0707f#64, .opcode, insnDref⟩,
  ⟨"vlseg3e8.v", 0, .v, "Vd,0(s)Vm", 0x40000007#64, 0xfdf0707f#64, .opcode, insnDref⟩,
  ⟨"vsseg3e8.v", 0, .v, "Vd,0(s)Vm", 0x40000027#64, 0xfdf0707f#64, .opcode, insnDref⟩,
  ⟨"vlseg4e8.v", 0, .v, "Vd,0(s)Vm", 0x60000007#64, 0xfdf0707f#64, .opcode, insnDref⟩,
  ⟨"vsseg4e8.v", 0, .v, "Vd,0(s)Vm", 0x60000027#64, 0xfdf0707f#64, .opcode, insnDref⟩,
  ⟨"vlseg5e8.v", 0, .v, "Vd,0(s)Vm", 0x80000007#64, 0xfdf0707f#64, .opcode, insnDref⟩,
  ⟨"vsseg5e8.v", 0, .v, "Vd,0(s)Vm", 0x80000027#64, 0xfdf0707f#64, .opcode, insnDref⟩,
  ⟨"vlseg6e8.v", 0, .v, "Vd,0(s)Vm", 0xa0000007#64, 0xfdf0707f#64, .opcode, insnDref⟩,
  ⟨"vsseg6e8.v", 0, .v, "Vd,0(s)Vm", 0xa0000027#64, 0xfdf0707f#64, .opcode, insnDref⟩,
  ⟨"vlseg7e8.v", 0, .v, "Vd,0(s)Vm", 0xc0000007#64, 0xfdf0707f#64, .opcode, insnDref⟩,
  ⟨"vsseg7e8.v", 0, .v, "Vd,0(s)Vm", 0xc0000027#64, 0xfdf0707f#64, .opcode, insnDref⟩,
  ⟨"vlseg8e8.v", 0, .v, "Vd,0(s)Vm", 0xe0000007#64, 0xfdf0707f#64, .opcode, insnDref⟩,
  ⟨"vsseg8e8.v", 0, .v, "Vd,0(s)Vm", 0xe0000027#64, 0xfdf0707f#64, .opcode, insnDref⟩,
  ⟨"vlseg2e16.v", 0, .v, "Vd,0(s)Vm", 0x20005007#64, 0xfdf0707f#64, .opcode, insnDref⟩,
  ⟨"vsseg2e16.v", 0, .v, "Vd,0(s)Vm", 0x20005027#64, 0xfdf0707f#64, .opcode, insnDref⟩,
  ⟨"vlseg3e16.v", 0, .v, "Vd,0(s)Vm", 0x40005007#64, 0xfdf0707f#64, .opcode, insnDref⟩,
  ⟨"vsseg3e16.v", 0, .v, "Vd,0(s)Vm", 0x40005027#64, 0xfdf0707f#64, .opcode, insnDref⟩,
  ⟨"vlseg4e16.v", 0, .v, "Vd,0(s)Vm", 0x60005007#64, 0xfdf0707f#64, .opcode, insnDref⟩,
  ⟨"vsseg4e16.v", 0, .v, "Vd,0(s)Vm", 0x60005027#64, 0xfdf0707f#64, .opcode, insnDref⟩,
  ⟨"vlseg5e16.v", 0, .v, "Vd,0(s)Vm", 0x80005007#64, 0xfdf0707f#64, .opcode, insnDref⟩,
  ⟨"vsseg5e16.v", 0, .v, "Vd,0(s)Vm", 0x80005027#64, 0xfdf0707f#64, .opcode, insnDref⟩,
  ⟨"vlseg6e16.v", 0, .v, "Vd,0(s)Vm", 0xa0005007#64, 0xfdf0707f#64, .opcode, insnDref⟩,
  ⟨"vsseg6e16.v", 0, .v, "Vd,0(s)Vm", 0xa0005027#64, 0xfdf0707f#64, .opcode, insnDref⟩,
  ⟨"vlseg7e16.v", 0, .v, "Vd,0(s)Vm", 0xc0005007#64, 0xfdf0707f#64, .opcode, insnDref⟩,
  ⟨"vsseg7e16.v", 0, .v, "Vd,0(s)Vm", 0xc0005027#64, 0xfdf0707f#64, .opcode, insnDref⟩,
  ⟨"vlseg8e16.v", 0, .v, "Vd,0(s)Vm", 0xe0005007#64, 0xfdf0707f#64, .opcode, insnDref⟩,
  ⟨"vsseg8e16.v", 0, .v, "Vd,0(s)Vm", 0xe0005027#64, 0xfdf0707f#64, .opcode, insnDref⟩,
  ⟨"vlseg2e32.v", 0, .v, "Vd,0(s)Vm", 0x20006007#64, 0xfdf0707f#64, .opcode, insnDref⟩,
  ⟨"vsseg2e32.v", 0, .v, "Vd,0(s)Vm", 0x20006027#64, 0xfdf0707f#64, .opcode, insnDref⟩,
  ⟨"vlseg3e32.v", 0, .v, "Vd,0(s)Vm", 0x40006007#64, 0xfdf0707f#64, .opcode, insnDref⟩,
  ⟨"vsseg3e32.v", 0, .v, "Vd,0(s)Vm", 0x40006027#64, 0xfdf0707f#64, .opcode, insnDref⟩,
  ⟨"vlseg4e32.v", 0, .v, "Vd,0(s)Vm", 0x60006007#64, 0xfdf0707f#64, .opcode, insnDref⟩,
  ⟨"vsseg4e32.v", 0, .v, "Vd,0(s)Vm", 0x60006027#64, 0xfdf0707f#64, .opcode, insnDref⟩,
  ⟨"vlseg5e32.v", 0, .v, "Vd,0(s)Vm", 0x80006007#64, 0xfdf0707f#64, .opcode, insnDref⟩,
  ⟨"vsseg5e32.v", 0, .v, "Vd,0(s)Vm", 0x80006027#64, 0xfdf0707f#64, .opcode, insnDref⟩,
  ⟨"vlseg6e32.v", 0, .v, "Vd,0(s)Vm", 0xa0006007#64, 0xfdf0707f#64, .opcode, insnDref⟩,
  ⟨"vsseg6e32.v", 0, .v, "Vd,0(s)Vm", 0xa0006027#64, 0xfdf0707f#64, .opcode, insnDref⟩,
  ⟨"vlseg7e32.v", 0, .v, "Vd,0(s)Vm", 0xc0006007#64, 0xfdf0707f#64, .opcode, insnDref⟩,
  ⟨"vsseg7e32.v", 0, .v, "Vd,0(s)Vm", 0xc0006027#64, 0xfdf0707f#64, .opcode, insnDref⟩,
  ⟨"vlseg8e32.v", 0, .v, "Vd,0(s)Vm", 0xe0006007#64, 0xfdf0707f#64, .opcode, insnDref⟩,
  ⟨"vsseg8e32.v", 0, .v, "Vd,0(s)Vm", 0xe0006027#64, 0xfdf0707f#64, .opcode, insnDref⟩,
  ⟨"vlseg2e64.v", 0, .v, "Vd,0(s)Vm", 0x20007007#64, 0xfdf0707f#64, .opcode, insnDref ||| insnVEew64⟩,
  ⟨"vsseg2e64.v", 0, .v, "Vd,0(s)Vm", 0x20007027#64, 0xfdf0707f#64, .opcode, insnDref ||| insnVEew64⟩,
  ⟨"vlseg3e64.v", 0, .v, "Vd,0(s)Vm", 0x40007007#64, 0xfdf0707f#64, .opcode, insnDref ||| insnVEew64⟩,
  ⟨"vsseg3e64.v", 0, .v, "Vd,0(s)Vm", 0x40007027#64, 0xfdf0707f#64, .opcode, insnDref ||| insnVEew64⟩,
  ⟨"vlseg4e64.v", 0, .v, "Vd,0(s)Vm", 0x60007007#64, 0xfdf0707f#64, .opcode, insnDref ||| insnVEew64⟩,
  ⟨"vsseg4e64.v", 0, .v, "Vd,0(s)Vm", 0x60007027#64, 0xfdf0707f#64, .opcode, insnDref ||| insnVEew64⟩,
  ⟨"vlseg5e64.v", 0, .v, "Vd,0(s)Vm", 0x80007007#64, 0xfdf0707f#64, .opcode, insnDref ||| insnVEew64⟩,
  ⟨"vsseg5e64.v", 0, .v, "Vd,0(s)Vm", 0x80007027#64, 0xfdf0707f#64, .opcode, insnDref ||| insnVEew64⟩,
  ⟨"vlseg6e64.v", 0, .v, "Vd,0(s)Vm", 0xa0007007#64, 0xfdf0707f#64, .opcode, insnDref ||| insnVEew64⟩,
  ⟨"vsseg6e64.v", 0, .v, "Vd,0(s)Vm", 0xa0007027#64, 0xfdf0707f#64, .opcode, insnDref ||| insnVEew64⟩,
  ⟨"vlseg7e64.v", 0, .v, "Vd,0(s)Vm", 0xc0007007#64, 0xfdf0707f#64, .opcode, insnDref ||| insnVEew64⟩,
  ⟨"vsseg7e64.v", 0, .v, "Vd,0(s)Vm", 0xc0007027#64, 0xfdf0707f#64, .opcode, insnDref ||| insnVEew64⟩,
  ⟨"vlseg8e64.v", 0, .v, "Vd,0(s)Vm", 0xe0007007#64, 0xfdf0707f#64, .opcode, insnDref ||| insnVEew64⟩,
  ⟨"vsseg8e64.v", 0, .v, "Vd,0(s)Vm", 0xe0007027#64, 0xfdf0707f#64, .opcode, insnDref ||| insnVEew64⟩,
  ⟨"vlsseg2e8.v", 0, .v, "Vd,0(s),tVm", 0x28000007#64, 0xfc00707f#64, .opcode, insnDref⟩,
  ⟨"vssseg2e8.v", 0, .v, "Vd,0(s),tVm", 0x28000027#64, 0xfc00707f#64, .opcode, insnDref⟩,
  ⟨"vlsseg3e8.v", 0, .v, "Vd,0(s),tVm", 0x48000007#64, 0xfc00707f#64, .opcode, insnDref⟩,
  ⟨"vssseg3e8.v", 0, .v, "Vd,0(s),tVm", 0x48000027#64, 0xfc00707f#64, .opcode, insnDref⟩,
  ⟨"vlsseg4e8.v", 0, .v, "Vd,0(s),tVm", 0x68000007#64, 0xfc00707f#64, .opcode, insnDref⟩,
  ⟨"vssseg4e8.v", 0, .v, "Vd,0(s),tVm", 0x68000027#64, 0xfc00707f#64, .opcode, insnDref⟩,
  ⟨"vlsseg5e8.v", 0, .v, "Vd,0(s),tVm", 0x88000007#64, 0xfc00707f#64, .opcode, insnDref⟩,
  ⟨"vssseg5e8.v", 0, .v, "Vd,0(s),tVm", 0x88000027#64, 0xfc00707f#64, .opcode, insnDref⟩,
  ⟨"vlsseg6e8.v", 0, .v, "Vd,0(s),tVm", 0xa8000007#64, 0xfc00707f#64, .opcode, insnDref⟩,
  ⟨"vssseg6e8.v", 0, .v, "Vd,0(s),tVm", 0xa8000027#64, 0xfc00707f#64, .opcode, insnDref⟩,
  ⟨"vlsseg7e8.v", 0, .v, "Vd,0(s),tVm", 0xc8000007#64, 0xfc00707f#64, .opcode, insnDref⟩,
  ⟨"vssseg7e8.v", 0, .v, "Vd,0(s),tVm", 0xc8000027#64, 0xfc00707f#64, .opcode, insnDref⟩,
  ⟨"vlsseg8e8.v", 0, .v, "Vd,0(s),tVm", 0xe8000007#64, 0xfc00707f#64, .opcode, insnDref⟩,
  ⟨"vssseg8e8.v", 0, .v, "Vd,0(s),tVm", 0xe8000027#64, 0xfc00707f#64, .opcode, insnDref⟩]

def vectorInsns2 : List RiscvOpcodeRow := [
  ⟨"vlsseg2e16.v", 0, .v, "Vd,0(s),tVm", 0x28005007#64, 0xfc00707f#64, .opcode, insnDref⟩,
  ⟨"vssseg2e16.v", 0, .v, "Vd,0(s),tVm", 0x28005027#64, 0xfc00707f#64, .opcode, insnDref⟩,
  ⟨"vlsseg3e16.v", 0, .v, "Vd,0(s),tVm", 0x48005007#64, 0xfc00707f#64, .opcode, insnDref⟩,
  ⟨"vssseg3e16.v", 0, .v, "Vd,0(s),tVm", 0x48005027#64, 0xfc00707f#64, .opcode, insnDref⟩,
  ⟨"vlsseg4e16.v", 0, .v, "Vd,0(s),tVm", 0x68005007#64, 0xfc00707f#64, .opcode, insnDref⟩,
  ⟨"vssseg4e16.v", 0, .v, "Vd,0(s),tVm", 0x68005027#64, 0xfc00707f#64, .opcode, insnDref⟩,
  ⟨"vlsseg5e16.v", 0, .v, "Vd,0(s),tVm", 0x88005007#64, 0xfc00707f#64, .opcode, insnDref⟩,
  ⟨"vssseg5e16.v", 0, .v, "Vd,0(s),tVm", 0x88005027#64, 0xfc00707f#64, .opcode, insnDref⟩,
  ⟨"vlsseg6e16.v", 0, .v, "Vd,0(s),tVm", 0xa8005007#64, 0xfc00707f#64, .opcode, insnDref⟩,
  ⟨"vssseg6e16.v", 0, .v, "Vd,0(s),tVm", 0xa8005027#64, 0xfc00707f#64, .opcode, insnDref⟩,
  ⟨"vlsseg7e16.v", 0, .v, "Vd,0(s),tVm", 0xc8005007#64, 0xfc00707f#64, .opcode, insnDref⟩,
  ⟨"vssseg7e16.v", 0, .v, "Vd,0(s),tVm", 0xc8005027#64, 0xfc00707f#64, .opcode, insnDref⟩,
  ⟨"vlsseg8e16.v", 0, .v, "Vd,0(s),tVm", 0xe8005007#64, 0xfc00707f#64, .opcode, insnDref⟩,
  ⟨"vssseg8e16.v", 0, .v, "Vd,0(s),tVm", 0xe8005027#64, 0xfc00707f#64, .opcode, insnDref⟩,
  ⟨"vlsseg2e32.v", 0, .v, "Vd,0(s),tVm", 0x28006007#64, 0xfc00707f#64, .opcode, insnDref⟩,
  ⟨"vssseg2e32.v", 0, .v, "Vd,0(s),tVm", 0x28006027#64, 0xfc00707f#64, .opcode, insnDref⟩,
  ⟨"vlsseg3e32.v", 0, .v, "Vd,0(s),tVm", 0x48006007#64, 0xfc00707f#64, .opcode, insnDref⟩,
  ⟨"vssseg3e32.v", 0, .v, "Vd,0(s),tVm", 0x48006027#64, 0xfc00707f#64, .opcode, insnDref⟩,
  ⟨"vlsseg4e32.v", 0, .v, "Vd,0(s),tVm", 0x68006007#64, 0xfc00707f#64, .opcode, insnDref⟩,
  ⟨"vssseg4e32.v", 0, .v, "Vd,0(s),tVm", 0x68006027#64, 0xfc00707f#64, .opcode, insnDref⟩,
  ⟨"vlsseg5e32.v", 0, .v, "Vd,0(s),tVm", 0x88006007#64, 0xfc00707f#64, .opcode, insnDref⟩,
  ⟨"vssseg5e32.v", 0, .v, "Vd,0(s),tVm", 0x88006027#64, 0xfc00707f#64, .opcode, insnDref⟩,
  ⟨"vlsseg6e32.v", 0, .v, "Vd,0(s),tVm", 0xa8006007#64, 0xfc00707f#64, .opcode, insnDref⟩,
  ⟨"vssseg6e32.v", 0, .v, "Vd,0(s),tVm", 0xa8006027#64, 0xfc00707f#64, .opcode, insnDref⟩,
  ⟨"vlsseg7e32.v", 0, .v, "Vd,0(s),tVm", 0xc8006007#64, 0xfc00707f#64, .opcode, insnDref⟩,
  ⟨"vssseg7e32.v", 0, .v, "Vd,0(s),tVm", 0xc8006027#64, 0xfc00707f#64, .opcode, insnDref⟩,
  ⟨"vlsseg8e32.v", 0, .v, "Vd,0(s),tVm", 0xe8006007#64, 0xfc00707f#64, .opcode, insnDref⟩,
  ⟨"vssseg8e32.v", 0, .v, "Vd,0(s),tVm", 0xe8006027#64, 0xfc00707f#64, .opcode, insnDref⟩,
  ⟨"vlsseg2e64.v", 0, .v, "Vd,0(s),tVm", 0x28007007#64, 0xfc00707f#64, .opcode, insnDref ||| insnVEew64⟩,
  ⟨"vssseg2e64.v", 0, .v, "Vd,0(s),tVm", 0x28007027#64, 0xfc00707f#64, .opcode, insnDref ||| insnVEew64⟩,
  ⟨"vlsseg3e64.v", 0, .v, "Vd,0(s),tVm", 0x48007007#64, 0xfc00707f#64, .opcode, insnDref ||| insnVEew64⟩,
  ⟨"vssseg3e64.v", 0, .v, "Vd,0(s),tVm", 0x48007027#64, 0xfc00707f#64, .opcode, insnDref ||| insnVEew64⟩,
  ⟨"vlsseg4e64.v", 0, .v, "Vd,0(s),tVm", 0x68007007#64, 0xfc00707f#64, .opcode, insnDref ||| insnVEew64⟩,
  ⟨"vssseg4e64.v", 0, .v, "Vd,0(s),tVm", 0x68007027#64, 0xfc00707f#64, .opcode, insnDref ||| insnVEew64⟩,
  ⟨"vlsseg5e64.v", 0, .v, "Vd,0(s),tVm", 0x88007007#64, 0xfc00707f#64, .opcode, insnDref ||| insnVEew64⟩,
  ⟨"vssseg5e64.v", 0, .v, "Vd,0(s),tVm", 0x88007027#64, 0xfc00707f#64, .opcode, insnDref ||| insnVEew64⟩,
  ⟨"vlsseg6e64.v", 0, .v, "Vd,0(s),tVm", 0xa8007007#64, 0xfc00707f#64, .opcode, insnDref ||| insnVEew64⟩,
  ⟨"vssseg6e64.v", 0, .v, "Vd,0(s),tVm", 0xa8007027#64, 0xfc00707f#64, .opcode, insnDref ||| insnVEew64⟩,
  ⟨"vlsseg7e64.v", 0, .v, "Vd,0(s),tVm", 0xc8007007#64, 0xfc00707f#64, .opcode, insnDref ||| insnVEew64⟩,
  ⟨"vssseg7e64.v", 0, .v, "Vd,0(s),tVm", 0xc8007027#64, 0xfc00707f#64, .opcode, insnDref ||| insnVEew64⟩,
  ⟨"vlsseg8e64.v", 0, .v, "Vd,0(s),tVm", 0xe8007007#64, 0xfc00707f#64, .opcode, insnDref ||| insnVEew64⟩,
  ⟨"vssseg8e64.v", 0, .v, "Vd,0(s),tVm", 0xe8007027#64, 0xfc00707f#64, .opcode, insnDref ||| insnVEew64⟩,
  ⟨"vloxseg2ei8.v", 0, .v, "Vd,0(s),VtVm", 0x2c000007#64, 0xfc00707f#64, .opcode, insnDref⟩,
  ⟨"vsoxseg2ei8.v", 0, .v, "Vd,0(s),VtVm", 0x2c000027#64, 0xfc00707f#64, .opcode, insnDref⟩,
  ⟨"vloxseg3ei8.v", 0, .v, "Vd,0(s),VtVm", 0x4c000007#64, 0xfc00707f#64, .opcode, insnDref⟩,
  ⟨"vsoxseg3ei8.v", 0, .v, "Vd,0(s),VtVm", 0x4c000027#64, 0xfc00707f#64, .opcode, insnDref⟩,
  ⟨"vloxseg4ei8.v", 0, .v, "Vd,0(s),VtVm", 0x6c000007#64, 0xfc00707f#64, .opcode, insnDref⟩,
  ⟨"vsoxseg4ei8.v", 0, .v, "Vd,0(s),VtVm", 0x6c000027#64, 0xfc00707f#64, .opcode, insnDref⟩,
  ⟨"vloxseg5ei8.v", 0, .v, "Vd,0(s),VtVm", 0x8c000007#64, 0xfc00707f#64, .opcode, insnDref⟩,
  ⟨"vsoxseg5ei8.v", 0, .v, "Vd,0(s),VtVm", 0x8c000027#64, 0xfc00707f#64, .opcode, insnDref⟩,
  ⟨"vloxseg6ei8.v", 0, .v, "Vd,0(s),VtVm", 0xac000007#64, 0xfc00707f#64, .opcode, insnDref⟩,
  ⟨"vsoxseg6ei8.v", 0, .v, "Vd,0(s),VtVm", 0xac000027#64, 0xfc00707f#64, .opcode, insnDref⟩,
  ⟨"vloxseg7ei8.v", 0, .v, "Vd,0(s),VtVm", 0xcc000007#64, 0xfc00707f#64, .opcode, insnDref⟩,
  ⟨"vsoxseg7ei8.v", 0, .v, "Vd,0(s),VtVm", 0xcc000027#64, 0xfc00707f#64, .opcode, insnDref⟩,
  ⟨"vloxseg8ei8.v", 0, .v, "Vd,0(s),VtVm", 0xec000007#64, 0xfc00707f#64, .opcode, insnDref⟩,
  ⟨"vsoxseg8ei8.v", 0, .v, "Vd,0(s),VtVm", 0xec000027#64, 0xfc00707f#64, .opcode, insnDref⟩,
  ⟨"vloxseg2ei16.v", 0, .v, "Vd,0(s),VtVm", 0x2c005007#64, 0xfc00707f#64, .opcode, insnDref⟩,
  ⟨"vsoxseg2ei16.v", 0, .v, "Vd,0(s),VtVm", 0x2c005027#64, 0xfc00707f#64, .opcode, insnDref⟩,
  ⟨"vloxseg3ei16.v", 0, .v, "Vd,0(s),VtVm", 0x4c005007#64, 0xfc00707f#64, .opcode, insnDref⟩,
  ⟨"vsoxseg3ei16.v", 0, .v, "Vd,0(s),VtVm", 0x4c005027#64, 0xfc00707f#64, .opcode, insnDref⟩,
  ⟨"vloxseg4ei16.v", 0, .v, "Vd,0(s),VtVm", 0x6c005007#64, 0xfc00707f#64, .opcode, insnDref⟩,
  ⟨"vsoxseg4ei16.v", 0, .v, "Vd,0(s),VtVm", 0x6c005027#64, 0xfc00707f#64, .opcode, insnDref⟩,
  ⟨"vloxseg5ei16.v", 0, .v, "Vd,0(s),VtVm", 0x8c005007#64, 0xfc00707f#64, .opcode, insnDref⟩,
  ⟨"vsoxseg5ei16.v", 0, .v, "Vd,0(s),VtVm", 0x8c005027#64, 0xfc00707f#64, .opcode, insnDref⟩,
  ⟨"vloxseg6ei16.v", 0, .v, "Vd,0(s),VtVm", 0xac005007#64, 0xfc00707f#64, .opcode, insnDref⟩,
  ⟨"vsoxseg6ei16.v", 0, .v, "Vd,0(s),VtVm", 0xac005027#64, 0xfc00707f#64, .opcode, insnDref⟩,
  ⟨"vloxseg7ei16.v", 0, .v, "Vd,0(s),VtVm", 0xcc005007#64, 0xfc00707f#64, .opcode, insnDref⟩,
  ⟨"vsoxseg7ei16.v", 0, .v, "Vd,0(s),VtVm", 0xcc005027#64, 0xfc00707f#64, .opcode, insnDref⟩,
  ⟨"vloxseg8ei16.v", 0, .v, "Vd,0(s),VtVm", 0xec005007#64, 0xfc00707f#64, .opcode, insnDref⟩,
  ⟨"vsoxseg8ei16.v", 0, .v, "Vd,0(s),VtVm", 0xec005027#64, 0xfc00707f#64, .opcode, insnDref⟩,
  ⟨"vloxseg2ei32.v", 0, .v, "Vd,0(s),VtVm", 0x2c006007#64, 0xfc00707f#64, .opcode, insnDref⟩,
  ⟨"vsoxseg2ei32.v", 0, .v, "Vd,0(s),VtVm", 0x2c006027#64, 0xfc00707f#64, .opcode, insnDref⟩,
  ⟨"vloxseg3ei32.v", 0, .v, "Vd,0(s),VtVm", 0x4c006007#64, 0xfc00707f#64, .opcode, insnDref⟩,
  ⟨"vsoxseg3ei32.v", 0, .v, "Vd,0(s),VtVm", 0x4c006027#64, 0xfc00707f#64, .opcode, insnDref⟩,
  ⟨"vloxseg4ei32.v", 0, .v, "Vd,0(s),VtVm", 0x6c006007#64, 0xfc00707f#64, .opcode, insnDref⟩,
  ⟨"vsoxseg4ei32.v", 0, .v, "Vd,0(s),VtVm", 0x6c006027#64, 0xfc00707f#64, .opcode, insnDref⟩,
  ⟨"vloxseg5ei32.v", 0, .v, "Vd,0(s),VtVm", 0x8c006007#64, 0xfc00707f#64, .opcode, insnDref⟩,
  ⟨"vsoxseg5ei32.v", 0, .v, "Vd,0(s),VtVm", 0x8c006027#64, 0xfc00707f#64, .opcode, insnDref⟩,
  ⟨"vloxseg6ei32.v", 0, .v, "Vd,0(s),VtVm", 0xac006007#64, 0xfc00707f#64, .opcode, insnDref⟩,
  ⟨"vsoxseg6ei32.v", 0, .v, "Vd,0(s),VtVm", 0xac006027#64, 0xfc00707f#64, .opcode, insnDref⟩,
  ⟨"vloxseg7ei32.v", 0, .v, "Vd,0(s),VtVm", 0xcc006007#64, 0xfc00707f#64, .opcode, insnDref⟩,
  ⟨"vsoxseg7ei32.v", 0, .v, "Vd,0(s),VtVm", 0xcc006027#64, 0xfc00707f#64, .opcode, insnDref⟩,
  ⟨"vloxseg8ei32.v", 0, .v, "Vd,0(s),VtVm", 0xec006007#64, 0xfc00707f#64, .opcode, insnDref⟩,
  ⟨"vsoxseg8ei32.v", 0, .v, "Vd,0(s),VtVm", 0xec006027#64, 0xfc00707f#64, .opcode, insnDref⟩,
  ⟨"vloxseg2ei64.v", 0, .v, "Vd,0(s),VtVm", 0x2c007007#64, 0xfc00707f#64, .opcode, insnDref ||| insnVEew64⟩,
  ⟨"vsoxseg2ei64.v", 0, .v, "Vd,0(s),VtVm", 0x2c007027#64, 0xfc00707f#64, .opcode, insnDref ||| insnVEew64⟩,
  ⟨"vloxseg3ei64.v", 0, .v, "Vd,0(s),VtVm", 0x4c007007#64, 0xfc00707f#64, .opcode, insnDref ||| insnVEew64⟩,
  ⟨"vsoxseg3ei64.v", 0, .v, "Vd,0(s),VtVm", 0x4c007027#64, 0xfc00707f#64, .opcode, insnDref ||| insnVEew64⟩,
  ⟨"vloxseg4ei64.v", 0, .v, "Vd,0(s),VtVm", 0x6c007007#64, 0xfc00707f#64, .opcode, insnDref ||| insnVEew64⟩,
  ⟨"vsoxseg4ei64.v", 0, .v, "Vd,0(s),VtVm", 0x6c007027#64, 0xfc00707f#64, .opcode, insnDref ||| insnVEew64⟩,
  ⟨"vloxseg5ei64.v", 0, .v, "Vd,0(s),VtVm", 0x8c007007#64, 0xfc00707f#64, .opcode, insnDref ||| insnVEew64⟩,
  ⟨"vsoxseg5ei64.v", 0, .v, "Vd,0(s),VtVm", 0x8c007027#64, 0xfc00707f#64, .opcode, insnDref ||| insnVEew64⟩,
  ⟨"vloxseg6ei64.v", 0, .v, "Vd,0(s),VtVm", 0xac007007#64, 0xfc00707f#64, .opcode, insnDref ||| insnVEew64⟩,
  ⟨"vsoxseg6ei64.v", 0, .v, "Vd,0(s),VtVm", 0xac007027#64, 0xfc00707f#64, .opcode, insnDref ||| insnVEew64⟩,
  ⟨"vloxseg7ei64.v", 0, .v, "Vd,0(s),VtVm", 0xcc007007#64, 0xfc00707f#64, .opcode, insnDref ||| insnVEew64⟩,
  ⟨"vsoxseg7ei64.v", 0, .v, "Vd,0(s),VtVm", 0xcc007027#64, 0xfc00707f#64, .opcode, insnDref ||| insnVEew64⟩,
  ⟨"vloxseg8ei64.v", 0, .v, "Vd,0(s),VtVm", 0xec007007#64, 0xfc00707f#64, .opcode, insnDref ||| insnVEew64⟩,
  ⟨"vsoxseg8ei64.v", 0, .v, "Vd,0(s),VtVm", 0xec007027#64, 0xfc00707f#64, .opcode, insnDref ||| insnVEew64⟩,
  ⟨"vluxseg2ei8.v", 0, .v, "Vd,0(s),VtVm", 0x24000007#64, 0xfc00707f#64, .opcode, insnDref⟩,
  ⟨"vsuxseg2ei8.v", 0, .v, "Vd,0(s),VtVm", 0x24000027#64, 0xfc00707f#64, .opcode, insnDref⟩,
  ⟨"vluxseg3ei8.v", 0, .v, "Vd,0(s),VtVm", 0x44000007#64, 0xfc00707f#64, .opcode, insnDref⟩,
  ⟨"vsuxseg3ei8.v", 0, .v, "Vd,0(s),VtVm", 0x44000027#64, 0xfc00707f#64, .opcode, insnDref⟩,
  ⟨"vluxseg4ei8.v", 0, .v, "Vd,0(s),VtVm", 0x64000007#64, 0xfc00707f#64, .opcode, insnDref⟩,
  ⟨"vsuxseg4ei8.v", 0, .v, "Vd,0(s),VtVm", 0x64000027#64, 0xfc00707f#64, .opcode, insnDref⟩,
  ⟨"vluxseg5ei8.v", 0, .v, "Vd,0(s),VtVm", 0x84000007#64, 0xfc00707f#64, .opcode, insnDref⟩,
  ⟨"vsuxseg5ei8.v", 0, .v, "Vd,0(s),VtVm", 0x84000027#64, 0xfc00707f#64, .opcode, insnDref⟩,
  ⟨"vluxseg6ei8.v", 0, .v, "Vd,0(s),VtVm", 0xa4000007#64, 0xfc00707f#64, .opcode, insnDref⟩,
  ⟨"vsuxseg6ei8.v", 0, .v, "Vd,0(s),VtVm", 0xa4000027#64, 0xfc00707f#64, .opcode, insnDref⟩,
  ⟨"vluxseg7ei8.v", 0, .v, "Vd,0(s),VtVm", 0xc4000007#64, 0xfc00707f#64, .opcode, insnDref⟩,
  ⟨"vsuxseg7ei8.v", 0, .v, "Vd,0(s),VtVm", 0xc4000027#64, 0xfc00707f#64, .opcode, insnDref⟩,
  ⟨"vluxseg8ei8.v", 0, .v, "Vd,0(s),VtVm", 0xe4000007#64, 0xfc00707f#64, .opcode, insnDref⟩,
  ⟨"vsuxseg8ei8.v", 0, .v, "Vd,0(s),VtVm", 0xe4000027#64, 0xfc00707f#64, .opcode, insnDref⟩]

def vectorInsns3 : List RiscvOpcodeRow := [
  ⟨"vluxseg2ei16.v", 0, .v, "Vd,0(s),VtVm", 0x24005007#64, 0xfc00707f#64, .opcode, insnDref⟩,
  ⟨"vsuxseg2ei16.v", 0, .v, "Vd,0(s),VtVm", 0x24005027#64, 0xfc00707f#64, .opcode, insnDref⟩,
  ⟨"vluxseg3ei16.v", 0, .v, "Vd,0(s),VtVm", 0x44005007#64, 0xfc00707f#64, .opcode, insnDref⟩,
  ⟨"vsuxseg3ei16.v", 0, .v, "Vd,0(s),VtVm", 0x44005027#64, 0xfc00707f#64, .opcode, insnDref⟩,
  ⟨"vluxseg4ei16.v", 0, .v, "Vd,0(s),VtVm", 0x64005007#64, 0xfc00707f#64, .opcode, insnDref⟩,
  ⟨"vsuxseg4ei16.v", 0, .v, "Vd,0(s),VtVm", 0x64005027#64, 0xfc00707f#64, .opcode, insnDref⟩,
  ⟨"vluxseg5ei16.v", 0, .v, "Vd,0(s),VtVm", 0x84005007#64, 0xfc00707f#64, .opcode, insnDref⟩,
  ⟨"vsuxseg5ei16.v", 0, .v, "Vd,0(s),VtVm", 0x84005027#64, 0xfc00707f#64, .opcode, insnDref⟩,
  ⟨"vluxseg6ei16.v", 0, .v, "Vd,0(s),VtVm", 0xa4005007#64, 0xfc00707f#64, .opcode, insnDref⟩,
  ⟨"vsuxseg6ei16.v", 0, .v, "Vd,0(s),VtVm", 0xa4005027#64, 0xfc00707f#64, .opcode, insnDref⟩,
  ⟨"vluxseg7ei16.v", 0, .v, "Vd,0(s),VtVm", 0xc4005007#64, 0xfc00707f#64, .opcode, insnDref⟩,
  ⟨"vsuxseg7ei16.v", 0, .v, "Vd,0(s),VtVm", 0xc4005027#64, 0xfc00707f#64, .opcode, insnDref⟩,
  ⟨"vluxseg8ei16.v", 0, .v, "Vd,0(s),VtVm", 0xe4005007#64, 0xfc00707f#64, .opcode, insnDref⟩,
  ⟨"vsuxseg8ei16.v", 0, .v, "Vd,0(s),VtVm", 0xe4005027#64, 0xfc00707f#64, .opcode, insnDref⟩,
  ⟨"vluxseg2ei32.v", 0, .v, "Vd,0(s),VtVm", 0x24006007#64, 0xfc00707f#64, .opcode, insnDref⟩,
  ⟨"vsuxseg2ei32.v", 0, .v, "Vd,0(s),VtVm", 0x24006027#64, 0xfc00707f#64, .opcode, insnDref⟩,
  ⟨"vluxseg3ei32.v", 0, .v, "Vd,0(s),VtVm", 0x44006007#64, 0xfc00707f#64, .opcode, insnDref⟩,
  ⟨"vsuxseg3ei32.v", 0, .v, "Vd,0(s),VtVm", 0x44006027#64, 0xfc00707f#64, .opcode, insnDref⟩,
  ⟨"vluxseg4ei32.v", 0, .v, "Vd,0(s),VtVm", 0x64006007#64, 0xfc00707f#64, .opcode, insnDref⟩,
  ⟨"vsuxseg4ei32.v", 0, .v, "Vd,0(s),VtVm", 0x64006027#64, 0xfc00707f#64, .opcode, insnDref⟩,
  ⟨"vluxseg5ei32.v", 0, .v, "Vd,0(s),VtVm", 0x84006007#64, 0xfc00707f#64, .opcode, insnDref⟩,
  ⟨"vsuxseg5ei32.v", 0, .v, "Vd,0(s),VtVm", 0x84006027#64, 0xfc00707f#64, .opcode, insnDref⟩,
  ⟨"vluxseg6ei32.v", 0, .v, "Vd,0(s),VtVm", 0xa4006007#64, 0xfc00707f#64, .opcode, insnDref⟩,
  ⟨"vsuxseg6ei32.v", 0, .v, "Vd,0(s),VtVm", 0xa4006027#64, 0xfc00707f#64, .opcode, insnDref⟩,
  ⟨"vluxseg7ei32.v", 0, .v, "Vd,0(s),VtVm", 0xc4006007#64, 0xfc00707f#64, .opcode, insnDref⟩,
  ⟨"vsuxseg7ei32.v", 0, .v, "Vd,0(s),VtVm", 0xc4006027#64, 0xfc00707f#64, .opcode, insnDref⟩,
  ⟨"vluxseg8ei32.v", 0, .v, "Vd,0(s),VtVm", 0xe4006007#64, 0xfc00707f#64, .opcode, insnDref⟩,
  ⟨"vsuxseg8ei32.v", 0, .v, "Vd,0(s),VtVm", 0xe4006027#64, 0xfc00707f#64, .opcode, insnDref⟩,
  ⟨"vluxseg2ei64.v", 0, .v, "Vd,0(s),VtVm", 0x24007007#64, 0xfc00707f#64, .opcode, insnDref ||| insnVEew64⟩,
  ⟨"vsuxseg2ei64.v", 0, .v, "Vd,0(s),VtVm", 0x24007027#64, 0xfc00707f#64, .opcode, insnDref ||| insnVEew64⟩,
  ⟨"vluxseg3ei64.v", 0, .v, "Vd,0(s),VtVm", 0x44007007#64, 0xfc00707f#64, .opcode, insnDref ||| insnVEew64⟩,
  ⟨"vsuxseg3ei64.v", 0, .v, "Vd,0(s),VtVm", 0x44007027#64, 0xfc00707f#64, .opcode, insnDref ||| insnVEew64⟩,
  ⟨"vluxseg4ei64.v", 0, .v, "Vd,0(s),VtVm", 0x64007007#64, 0xfc00707f#64, .opcode, insnDref ||| insnVEew64⟩,
  ⟨"vsuxseg4ei64.v", 0, .v, "Vd,0(s),VtVm", 0x64007027#64, 0xfc00707f#64, .opcode, insnDref ||| insnVEew64⟩,
  ⟨"vluxseg5ei64.v", 0, .v, "Vd,0(s),VtVm", 0x84007007#64, 0xfc00707f#64, .opcode, insnDref ||| insnVEew64⟩,
  ⟨"vsuxseg5ei64.v", 0, .v, "Vd,0(s),VtVm", 0x84007027#64, 0xfc00707f#64, .opcode, insnDref ||| insnVEew64⟩,
  ⟨"vluxseg6ei64.v", 0, .v, "Vd,0(s),VtVm", 0xa4007007#64, 0xfc00707f#64, .opcode, insnDref ||| insnVEew64⟩,
  ⟨"vsuxseg6ei64.v", 0, .v, "Vd,0(s),VtVm", 0xa4007027#64, 0xfc00707f#64, .opcode, insnDref ||| insnVEew64⟩,
  ⟨"vluxseg7ei64.v", 0, .v, "Vd,0(s),VtVm", 0xc4007007#64, 0xfc00707f#64, .opcode, insnDref ||| insnVEew64⟩,
  ⟨"vsuxseg7ei64.v", 0, .v, "Vd,0(s),VtVm", 0xc4007027#64, 0xfc00707f#64, .opcode, insnDref ||| insnVEew64⟩,
  ⟨"vluxseg8ei64.v", 0, .v, "Vd,0(s),VtVm", 0xe4007007#64, 0xfc00707f#64, .opcode, insnDref ||| insnVEew64⟩,
  ⟨"vsuxseg8ei64.v", 0, .v, "Vd,0(s),VtVm", 0xe4007027#64, 0xfc00707f#64, .opcode, insnDref ||| insnVEew64⟩,
  ⟨"vlseg2e8ff.v", 0, .v, "Vd,0(s)Vm", 0x21000007#64, 0xfdf0707f#64, .opcode, insnDref⟩,
  ⟨"vlseg3e8ff.v", 0, .v, "Vd,0(s)Vm", 0x41000007#64, 0xfdf0707f#64, .opcode, insnDref⟩,
  ⟨"vlseg4e8ff.v", 0, .v, "Vd,0(s)Vm", 0x61000007#64, 0xfdf0707f#64, .opcode, insnDref⟩,
  ⟨"vlseg5e8ff.v", 0, .v, "Vd,0(s)Vm", 0x81000007#64, 0xfdf0707f#64, .opcode, insnDref⟩,
  ⟨"vlseg6e8ff.v", 0, .v, "Vd,0(s)Vm", 0xa1000007#64, 0xfdf0707f#64, .opcode, insnDref⟩,
  ⟨"vlseg7e8ff.v", 0, .v, "Vd,0(s)Vm", 0xc1000007#64, 0xfdf0707f#64, .opcode, insnDref⟩,
  ⟨"vlseg8e8ff.v", 0, .v, "Vd,0(s)Vm", 0xe1000007#64, 0xfdf0707f#64, .opcode, insnDref⟩,
  ⟨"vlseg2e16ff.v", 0, .v, "Vd,0(s)Vm", 0x21005007#64, 0xfdf0707f#64, .opcode, insnDref⟩,
  ⟨"vlseg3e16ff.v", 0, .v, "Vd,0(s)Vm", 0x41005007#64, 0xfdf0707f#64, .opcode, insnDref⟩,
  ⟨"vlseg4e16ff.v", 0, .v, "Vd,0(s)Vm", 0x61005007#64, 0xfdf0707f#64, .opcode, insnDref⟩,
  ⟨"vlseg5e16ff.v", 0, .v, "Vd,0(s)Vm", 0x81005007#64, 0xfdf0707f#64, .opcode, insnDref⟩,
  ⟨"vlseg6e16ff.v", 0, .v, "Vd,0(s)Vm", 0xa1005007#64, 0xfdf0707f#64, .opcode, insnDref⟩,
  ⟨"vlseg7e16ff.v", 0, .v, "Vd,0(s)Vm", 0xc1005007#64, 0xfdf0707f#64, .opcode, insnDref⟩,
  ⟨"vlseg8e16ff.v", 0, .v, "Vd,0(s)Vm", 0xe1005007#64, 0xfdf0707f#64, .opcode, insnDref⟩,
  ⟨"vlseg2e32ff.v", 0, .v, "Vd,0(s)Vm", 0x21006007#64, 0xfdf0707f#64, .opcode, insnDref⟩,
  ⟨"vlseg3e32ff.v", 0, .v, "Vd,0(s)Vm", 0x41006007#64, 0xfdf0707f#64, .opcode, insnDref⟩,
  ⟨"vlseg4e32ff.v", 0, .v, "Vd,0(s)Vm", 0x61006007#64, 0xfdf0707f#64, .opcode, insnDref⟩,
  ⟨"vlseg5e32ff.v", 0, .v, "Vd,0(s)Vm", 0x81006007#64, 0xfdf0707f#64, .opcode, insnDref⟩,
  ⟨"vlseg6e32ff.v", 0, .v, "Vd,0(s)Vm", 0xa1006007#64, 0xfdf0707f#64, .opcode, insnDref⟩,
  ⟨"vlseg7e32ff.v", 0, .v, "Vd,0(s)Vm", 0xc1006007#64, 0xfdf0707f#64, .opcode, insnDref⟩,
  ⟨"vlseg8e32ff.v", 0, .v, "Vd,0(s)Vm", 0xe1006007#64, 0xfdf0707f#64, .opcode, insnDref⟩,
  ⟨"vlseg2e64ff.v", 0, .v, "Vd,0(s)Vm", 0x21007007#64, 0xfdf0707f#64, .opcode, insnDref ||| insnVEew64⟩,
  ⟨"vlseg3e64ff.v", 0, .v, "Vd,0(s)Vm", 0x41007007#64, 0xfdf0707f#64, .opcode, insnDref ||| insnVEew64⟩,
  ⟨"vlseg4e64ff.v", 0, .v, "Vd,0(s)Vm", 0x61007007#64, 0xfdf0707f#64, .opcode, insnDref ||| insnVEew64⟩,
  ⟨"vlseg5e64ff.v", 0, .v, "Vd,0(s)Vm", 0x81007007#64, 0xfdf0707f#64, .opcode, insnDref ||| insnVEew64⟩,
  ⟨"vlseg6e64ff.v", 0, .v, "Vd,0(s)Vm", 0xa1007007#64, 0xfdf0707f#64, .opcode, insnDref ||| insnVEew64⟩,
  ⟨"vlseg7e64ff.v", 0, .v, "Vd,0(s)Vm", 0xc1007007#64, 0xfdf0707f#64, .opcode, insnDref ||| insnVEew64⟩,
  ⟨"vlseg8e64ff.v", 0, .v, "Vd,0(s)Vm", 0xe1007007#64, 0xfdf0707f#64, .opcode, insnDref ||| insnVEew64⟩,
  ⟨"vl1r.v", 0, .v, "Vd,0(s)", 0x2800007#64, 0xfff0707f#64, .opcode, insnDref ||| insnAlias⟩,
  ⟨"vl1re8.v", 0, .v, "Vd,0(s)", 0x2800007#64, 0xfff0707f#64, .opcode, insnDref⟩,
  ⟨"vl1re16.v", 0, .v, "Vd,0(s)", 0x2805007#64, 0xfff0707f#64, .opcode, insnDref⟩,
  ⟨"vl1re32.v", 0, .v, "Vd,0(s)", 0x2806007#64, 0xfff0707f#64, .opcode, insnDref⟩,
  ⟨"vl1re64.v", 0, .v, "Vd,0(s)", 0x2807007#64, 0xfff0707f#64, .opcode, insnDref ||| insnVEew64⟩,
  ⟨"vl2r.v", 0, .v, "Vd,0(s)", 0x22800007#64, 0xfff0707f#64, .opcode, insnDref ||| insnAlias⟩,
  ⟨"vl2re8.v", 0, .v, "Vd,0(s)", 0x22800007#64, 0xfff0707f#64, .opcode, insnDref⟩,
  ⟨"vl2re16.v", 0, .v, "Vd,0(s)", 0x22805007#64, 0xfff0707f#64, .opcode, insnDref⟩,
  ⟨"vl2re32.v", 0, .v, "Vd,0(s)", 0x22806007#64, 0xfff0707f#64, .opcode, insnDref⟩,
  ⟨"vl2re64.v", 0, .v, "Vd,0(s)", 0x22807007#64, 0xfff0707f#64, .opcode, insnDref ||| insnVEew64⟩,
  ⟨"vl4r.v", 0, .v, "Vd,0(s)", 0x62800007#64, 0xfff0707f#64, .opcode, insnDref ||| insnAlias⟩,
  ⟨"vl4re8.v", 0, .v, "Vd,0(s)", 0x62800007#64, 0xfff0707f#64, .opcode, insnDref⟩,
  ⟨"vl4re16.v", 0, .v, "Vd,0(s)", 0x62805007#64, 0xfff0707f#64, .opcode, insnDref⟩,
  ⟨"vl4re32.v", 0, .v, "Vd,0(s)", 0x62806007#64, 0xfff0707f#64, .opcode, insnDref⟩,
  ⟨"vl4re64.v", 0, .v, "Vd,0(s)", 0x62807007#64, 0xfff0707f#64, .opcode, insnDref ||| insnVEew64⟩,
  ⟨"vl8r.v", 0, .v, "Vd,0(s)", 0xe2800007#64, 0xfff0707f#64, .opcode, insnDref ||| insnAlias⟩,
  ⟨"vl8re8.v", 0, .v, "Vd,0(s)", 0xe2800007#64, 0xfff0707f#64, .opcode, insnDref⟩,
  ⟨"vl8re16.v", 0, .v, "Vd,0(s)", 0xe2805007#64, 0xfff0707f#64, .opcode, insnDref⟩,
  ⟨"vl8re32.v", 0, .v, "Vd,0(s)", 0xe2806007#64, 0xfff0707f#64, .opcode, insnDref⟩,
  ⟨"vl8re64.v", 0, .v, "Vd,0(s)", 0xe2807007#64, 0xfff0707f#64, .opcode, insnDref ||| insnVEew64⟩,
  ⟨"vs1r.v", 0, .v, "Vd,0(s)", 0x2800027#64, 0xfff0707f#64, .opcode, insnDref⟩,
  ⟨"vs2r.v", 0, .v, "Vd,0(s)", 0x22800027#64, 0xfff0707f#64, .opcode, insnDref⟩,
  ⟨"vs4r.v", 0, .v, "Vd,0(s)", 0x62800027#64, 0xfff0707f#64, .opcode, insnDref⟩,
  ⟨"vs8r.v", 0, .v, "Vd,0(s)", 0xe2800027#64, 0xfff0707f#64, .opcode, insnDref⟩,
  ⟨"vneg.v", 0, .v, "Vd,VtVm", 0xc004057#64, 0xfc0ff07f#64, .opcode, insnAlias⟩,
  ⟨"vadd.vv", 0, .v, "Vd,Vt,VsVm", 0x57#64, 0xfc00707f#64, .opcode, 0⟩,
  ⟨"vadd.vx", 0, .v, "Vd,Vt,sVm", 0x4057#64, 0xfc00707f#64, .opcode, 0⟩,
  ⟨"vadd.vi", 0, .v, "Vd,Vt,ViVm", 0x3057#64, 0xfc00707f#64, .opcode, 0⟩,
  ⟨"vsub.vv", 0, .v, "Vd,Vt,VsVm", 0x8000057#64, 0xfc00707f#64, .opcode, 0⟩,
  ⟨"vsub.vx", 0, .v, "Vd,Vt,sVm", 0x8004057#64, 0xfc00707f#64, .opcode, 0⟩,
  ⟨"vrsub.vx", 0, .v, "Vd,Vt,sVm", 0xc004057#64, 0xfc00707f#64, .opcode, 0⟩,
  ⟨"vrsub.vi", 0, .v, "Vd,Vt,ViVm", 0xc003057#64, 0xfc00707f#64, .opcode, 0⟩,
  ⟨"vwcvt.x.x.v", 0, .v, "Vd,VtVm", 0xc4006057#64, 0xfc0ff07f#64, .opcode, insnAlias⟩,
  ⟨"vwcvtu.x.x.v", 0, .v, "Vd,VtVm", 0xc0006057#64, 0xfc0ff07f#64, .opcode, insnAlias⟩,
  ⟨"vwaddu.vv", 0, .v, "Vd,Vt,VsVm", 0xc0002057#64, 0xfc00707f#64, .opcode, 0⟩,
  ⟨"vwaddu.vx", 0, .v, "Vd,Vt,sVm", 0xc0006057#64, 0xfc00707f#64, .opcode, 0⟩,
  ⟨"vwsubu.vv", 0, .v, "Vd,Vt,VsVm", 0xc8002057#64, 0xfc00707f#64, .opcode, 0⟩,
  ⟨"vwsubu.vx", 0, .v, "Vd,Vt,sVm", 0xc8006057#64, 0xfc00707f#64, .opcode, 0⟩,
  ⟨"vwadd.vv", 0, .v, "Vd,Vt,VsVm", 0xc4002057#64, 0xfc00707f#64, .opcode, 0⟩,
  ⟨"vwadd.vx", 0, .v, "Vd,Vt,sVm", 0xc4006057#64, 0xfc00707f#64, .opcode, 0⟩,
  ⟨"vwsub.vv", 0, .v, "Vd,Vt,VsVm", 0xcc002057#64, 0xfc00707f#64, .opcode, 0⟩,
  ⟨"vwsub.vx", 0, .v, "Vd,Vt,sVm", 0xcc006057#64, 0xfc00707f#64, .opcode, 0⟩,
  ⟨"vwaddu.wv", 0, .v, "Vd,Vt,VsVm", 0xd0002057#64, 0xfc00707f#64, .opcode, 0⟩,
  ⟨"vwaddu.wx", 0, .v, "Vd,Vt,sVm", 0xd0006057#64, 0xfc00707f#64, .opcode, 0⟩,
  ⟨"vwsubu.wv", 0, .v, "Vd,Vt,VsVm", 0xd8002057#64, 0xfc00707f#64, .opcode, 0⟩,
  ⟨"vwsubu.wx", 0, .v, "Vd,Vt,sVm", 0xd8006057#64, 0xfc00707f#64, .opcode, 0⟩,
  ⟨"vwadd.wv", 0, .v, "Vd,Vt,VsVm", 0xd4002057#64, 0xfc00707f#64, .opcode, 0⟩,
  ⟨"vwadd.wx", 0, .v, "Vd,Vt,sVm", 0xd4006057#64, 0xfc00707f#64, .opcode, 0⟩,
  ⟨"vwsub.wv", 0, .v, "Vd,Vt,VsVm", 0xdc002057#64, 0xfc00707f#64, .opcode, 0⟩,
  ⟨"vwsub.wx", 0, .v, "Vd,Vt,sVm", 0xdc006057#64, 0xfc00707f#64, .opcode, 0⟩]

def vectorInsns4 : List RiscvOpcodeRow := [
  ⟨"vzext.vf2", 0, .v, "Vd,VtVm", 0x48032057#64, 0xfc0ff07f#64, .opcode, 0⟩,
  ⟨"vsext.vf2", 0, .v, "Vd,VtVm", 0x4803a057#64, 0xfc0ff07f#64, .opcode, 0⟩,
  ⟨"vzext.vf4", 0, .v, "Vd,VtVm", 0x48022057#64, 0xfc0ff07f#64, .opcode, 0⟩,
  ⟨"vsext.vf4", 0, .v, "Vd,VtVm", 0x4802a057#64, 0xfc0ff07f#64, .opcode, 0⟩,
  ⟨"vzext.vf8", 0, .v, "Vd,VtVm", 0x48012057#64, 0xfc0ff07f#64, .opcode, 0⟩,
  ⟨"vsext.vf8", 0, .v, "Vd,VtVm", 0x4801a057#64, 0xfc0ff07f#64, .opcode, 0⟩,
  ⟨"vadc.vvm", 0, .v, "Vd,Vt,Vs,V0", 0x40000057#64, 0xfe00707f#64, .opcode, 0⟩,
  ⟨"vadc.vxm", 0, .v, "Vd,Vt,s,V0", 0x40004057#64, 0xfe00707f#64, .opcode, 0⟩,
  ⟨"vadc.vim", 0, .v, "Vd,Vt,Vi,V0", 0x40003057#64, 0xfe00707f#64, .opcode, 0⟩,
  ⟨"vmadc.vvm", 0, .v, "Vd,Vt,Vs,V0", 0x44000057#64, 0xfe00707f#64, .opcode, 0⟩,
  ⟨"vmadc.vxm", 0, .v, "Vd,Vt,s,V0", 0x44004057#64, 0xfe00707f#64, .opcode, 0⟩,
  ⟨"vmadc.vim", 0, .v, "Vd,Vt,Vi,V0", 0x44003057#64, 0xfe00707f#64, .opcode, 0⟩,
  ⟨"vmadc.vv", 0, .v, "Vd,Vt,Vs", 0x46000057#64, 0xfe00707f#64, .opcode, 0⟩,
  ⟨"vmadc.vx", 0, .v, "Vd,Vt,s", 0x46004057#64, 0xfe00707f#64, .opcode, 0⟩,
  ⟨"vmadc.vi", 0, .v, "Vd,Vt,Vi", 0x46003057#64, 0xfe00707f#64, .opcode, 0⟩,
  ⟨"vsbc.vvm", 0, .v, "Vd,Vt,Vs,V0", 0x48000057#64, 0xfe00707f#64, .opcode, 0⟩,
  ⟨"vsbc.vxm", 0, .v, "Vd,Vt,s,V0", 0x48004057#64, 0xfe00707f#64, .opcode, 0⟩,
  ⟨"vmsbc.vvm", 0, .v, "Vd,Vt,Vs,V0", 0x4c000057#64, 0xfe00707f#64, .opcode, 0⟩,
  ⟨"vmsbc.vxm", 0, .v, "Vd,Vt,s,V0", 0x4c004057#64, 0xfe00707f#64, .opcode, 0⟩,
  ⟨"vmsbc.vv", 0, .v, "Vd,Vt,Vs", 0x4e000057#64, 0xfe00707f#64, .opcode, 0⟩,
  ⟨"vmsbc.vx", 0, .v, "Vd,Vt,s", 0x4e004057#64, 0xfe00707f#64, .opcode, 0⟩,
  ⟨"vnot.v", 0, .v, "Vd,VtVm", 0x2c0fb057#64, 0xfc0ff07f#64, .opcode, insnAlias⟩,
  ⟨"vand.vv", 0, .v, "Vd,Vt,VsVm", 0x24000057#64, 0xfc00707f#64, .opcode, 0⟩,
  ⟨"vand.vx", 0, .v, "Vd,Vt,sVm", 0x24004057#64, 0xfc00707f#64, .opcode, 0⟩,
  ⟨"vand.vi", 0, .v, "Vd,Vt,ViVm", 0x24003057#64, 0xfc00707f#64, .opcode, 0⟩,
  ⟨"vor.vv", 0, .v, "Vd,Vt,VsVm", 0x28000057#64, 0xfc00707f#64, .opcode, 0⟩,
  ⟨"vor.vx", 0, .v, "Vd,Vt,sVm", 0x28004057#64, 0xfc00707f#64, .opcode, 0⟩,
  ⟨"vor.vi", 0, .v, "Vd,Vt,ViVm", 0x28003057#64, 0xfc00707f#64, .opcode, 0⟩,
  ⟨"vxor.vv", 0, .v, "Vd,Vt,VsVm", 0x2c000057#64, 0xfc00707f#64, .opcode, 0⟩,
  ⟨"vxor.vx", 0, .v, "Vd,Vt,sVm", 0x2c004057#64, 0xfc00707f#64, .opcode, 0⟩,
  ⟨"vxor.vi", 0, .v, "Vd,Vt,ViVm", 0x2c003057#64, 0xfc00707f#64, .opcode, 0⟩,
  ⟨"vsll.vv", 0, .v, "Vd,Vt,VsVm", 0x94000057#64, 0xfc00707f#64, .opcode, 0⟩,
  ⟨"vsll.vx", 0, .v, "Vd,Vt,sVm", 0x94004057#64, 0xfc00707f#64, .opcode, 0⟩,
  ⟨"vsll.vi", 0, .v, "Vd,Vt,VjVm", 0x94003057#64, 0xfc00707f#64, .opcode, 0⟩,
  ⟨"vsrl.vv", 0, .v, "Vd,Vt,VsVm", 0xa0000057#64, 0xfc00707f#64, .opcode, 0⟩,
  ⟨"vsrl.vx", 0, .v, "Vd,Vt,sVm", 0xa0004057#64, 0xfc00707f#64, .opcode, 0⟩,
  ⟨"vsrl.vi", 0, .v, "Vd,Vt,VjVm", 0xa0003057#64, 0xfc00707f#64, .opcode, 0⟩,
  ⟨"vsra.vv", 0, .v, "Vd,Vt,VsVm", 0xa4000057#64, 0xfc00707f#64, .opcode, 0⟩,
  ⟨"vsra.vx", 0, .v, "Vd,Vt,sVm", 0xa4004057#64, 0xfc00707f#64, .opcode, 0⟩,
  ⟨"vsra.vi", 0, .v, "Vd,Vt,VjVm", 0xa4003057#64, 0xfc00707f#64, .opcode, 0⟩,
  ⟨"vncvt.x.x.w", 0, .v, "Vd,VtVm", 0xb0004057#64, 0xfc0ff07f#64, .opcode, insnAlias⟩,
  ⟨"vnsrl.wv", 0, .v, "Vd,Vt,VsVm", 0xb0000057#64, 0xfc00707f#64, .opcode, 0⟩,
  ⟨"vnsrl.wx", 0, .v, "Vd,Vt,sVm", 0xb0004057#64, 0xfc00707f#64, .opcode, 0⟩,
  ⟨"vnsrl.wi", 0, .v, "Vd,Vt,VjVm", 0xb0003057#64, 0xfc00707f#64, .opcode, 0⟩,
  ⟨"vnsra.wv", 0, .v, "Vd,Vt,VsVm", 0xb4000057#64, 0xfc00707f#64, .opcode, 0⟩,
  ⟨"vnsra.wx", 0, .v, "Vd,Vt,sVm", 0xb4004057#64, 0xfc00707f#64, .opcode, 0⟩,
  ⟨"vnsra.wi", 0, .v, "Vd,Vt,VjVm", 0xb4003057#64, 0xfc00707f#64, .opcode, 0⟩,
  ⟨"vmseq.vv", 0, .v, "Vd,Vt,VsVm", 0x60000057#64, 0xfc00707f#64, .opcode, 0⟩,
  ⟨"vmseq.vx", 0, .v, "Vd,Vt,sVm", 0x60004057#64, 0xfc00707f#64, .opcode, 0⟩,
  ⟨"vmseq.vi", 0, .v, "Vd,Vt,ViVm", 0x60003057#64, 0xfc00707f#64, .opcode, 0⟩,
  ⟨"vmsne.vv", 0, .v, "Vd,Vt,VsVm", 0x64000057#64, 0xfc00707f#64, .opcode, 0⟩,
  ⟨"vmsne.vx", 0, .v, "Vd,Vt,sVm", 0x64004057#64, 0xfc00707f#64, .opcode, 0⟩,
  ⟨"vmsne.vi", 0, .v, "Vd,Vt,ViVm", 0x64003057#64, 0xfc00707f#64, .opcode, 0⟩,
  ⟨"vmsltu.vv", 0, .v, "Vd,Vt,VsVm", 0x68000057#64, 0xfc00707f#64, .opcode, 0⟩,
  ⟨"vmsltu.vx", 0, .v, "Vd,Vt,sVm", 0x68004057#64, 0xfc00707f#64, .opcode, 0⟩,
  ⟨"vmslt.vv", 0, .v, "Vd,Vt,VsVm", 0x6c000057#64, 0xfc00707f#64, .opcode, 0⟩,
  ⟨"vmslt.vx", 0, .v, "Vd,Vt,sVm", 0x6c004057#64, 0xfc00707f#64, .opcode, 0⟩,
  ⟨"vmsleu.vv", 0, .v, "Vd,Vt,VsVm", 0x70000057#64, 0xfc00707f#64, .opcode, 0⟩,
  ⟨"vmsleu.vx", 0, .v, "Vd,Vt,sVm", 0x70004057#64, 0xfc00707f#64, .opcode, 0⟩,
  ⟨"vmsleu.vi", 0, .v, "Vd,Vt,ViVm", 0x70003057#64, 0xfc00707f#64, .opcode, 0⟩,
  ⟨"vmsle.vv", 0, .v, "Vd,Vt,VsVm", 0x74000057#64, 0xfc00707f#64, .opcode, 0⟩,
  ⟨"vmsle.vx", 0, .v, "Vd,Vt,sVm", 0x74004057#64, 0xfc00707f#64, .opcode, 0⟩,
  ⟨"vmsle.vi", 0, .v, "Vd,Vt,ViVm", 0x74003057#64, 0xfc00707f#64, .opcode, 0⟩,
  ⟨"vmsgtu.vx", 0, .v, "Vd,Vt,sVm", 0x78004057#64, 0xfc00707f#64, .opcode, 0⟩,
  ⟨"vmsgtu.vi", 0, .v, "Vd,Vt,ViVm", 0x78003057#64, 0xfc00707f#64, .opcode, 0⟩,
  ⟨"vmsgt.vx", 0, .v, "Vd,Vt,sVm", 0x7c004057#64, 0xfc00707f#64, .opcode, 0⟩,
  ⟨"vmsgt.vi", 0, .v, "Vd,Vt,ViVm", 0x7c003057#64, 0xfc00707f#64, .opcode, 0⟩,
  ⟨"vmsgt.vv", 0, .v, "Vd,Vs,VtVm", 0x6c000057#64, 0xfc00707f#64, .opcode, insnAlias⟩,
  ⟨"vmsgtu.vv", 0, .v, "Vd,Vs,VtVm", 0x68000057#64, 0xfc00707f#64, .opcode, insnAlias⟩,
  ⟨"vmsge.vv", 0, .v, "Vd,Vs,VtVm", 0x74000057#64, 0xfc00707f#64, .opcode, insnAlias⟩,
  ⟨"vmsgeu.vv", 0, .v, "Vd,Vs,VtVm", 0x70000057#64, 0xfc00707f#64, .opcode, insnAlias⟩,
  ⟨"vmslt.vi", 0, .v, "Vd,Vt,VkVm", 0x74003057#64, 0xfc00707f#64, .opcode, insnAlias⟩,
  ⟨"vmsltu.vi", 0, .v, "Vd,Vu,0Vm", 0x64000057#64, 0xfc00707f#64, .vs1EqVs2, insnAlias⟩,
  ⟨"vmsltu.vi", 0, .v, "Vd,Vt,VkVm", 0x70003057#64, 0xfc00707f#64, .opcode, insnAlias⟩,
  ⟨"vmsge.vi", 0, .v, "Vd,Vt,VkVm", 0x7c003057#64, 0xfc00707f#64, .opcode, insnAlias⟩,
  ⟨"vmsgeu.vi", 0, .v, "Vd,Vu,0Vm", 0x60000057#64, 0xfc00707f#64, .vs1EqVs2, insnAlias⟩,
  ⟨"vmsgeu.vi", 0, .v, "Vd,Vt,VkVm", 0x78003057#64, 0xfc00707f#64, .opcode, insnAlias⟩,
  ⟨"vmsge.vx", 0, .v, "Vd,Vt,sVm", 0#64, 0xe#64, .null, insnMacro⟩,
  ⟨"vmsge.vx", 0, .v, "Vd,Vt,s,VM,VT", 0#64, 0xe#64, .null, insnMacro⟩,
  ⟨"vmsgeu.vx", 0, .v, "Vd,Vt,sVm", 0x1#64, 0xe#64, .null, insnMacro⟩,
  ⟨"vmsgeu.vx", 0, .v, "Vd,Vt,s,VM,VT", 0x1#64, 0xe#64, .null, insnMacro⟩,
  ⟨"vminu.vv", 0, .v, "Vd,Vt,VsVm", 0x10000057#64, 0xfc00707f#64, .opcode, 0⟩,
  ⟨"vminu.vx", 0, .v, "Vd,Vt,sVm", 0x10004057#64, 0xfc00707f#64, .opcode, 0⟩,
  ⟨"vmin.vv", 0, .v, "Vd,Vt,VsVm", 0x14000057#64, 0xfc00707f#64, .opcode, 0⟩,
  ⟨"vmin.vx", 0, .v, "Vd,Vt,sVm", 0x14004057#64, 0xfc00707f#64, .opcode, 0⟩,
  ⟨"vmaxu.vv", 0, .v, "Vd,Vt,VsVm", 0x18000057#64, 0xfc00707f#64, .opcode, 0⟩,
  ⟨"vmaxu.vx", 0, .v, "Vd,Vt,sVm", 0x18004057#64, 0xfc00707f#64, .opcode, 0⟩,
  ⟨"vmax.vv", 0, .v, "Vd,Vt,VsVm", 0x1c000057#64, 0xfc00707f#64, .opcode, 0⟩,
  ⟨"vmax.vx", 0, .v, "Vd,Vt,sVm", 0x1c004057#64, 0xfc00707f#64, .opcode, 0⟩,
  ⟨"vmul.vv", 0, .v, "Vd,Vt,VsVm", 0x94002057#64, 0xfc00707f#64, .opcode, 0⟩,
  ⟨"vmul.vx", 0, .v, "Vd,Vt,sVm", 0x94006057#64, 0xfc00707f#64, .opcode, 0⟩,
  ⟨"vmulh.vv", 0, .v, "Vd,Vt,VsVm", 0x9c002057#64, 0xfc00707f#64, .opcode, 0⟩,
  ⟨"vmulh.vx", 0, .v, "Vd,Vt,sVm", 0x9c006057#64, 0xfc00707f#64, .opcode, 0⟩,
  ⟨"vmulhu.vv", 0, .v, "Vd,Vt,VsVm", 0x90002057#64, 0xfc00707f#64, .opcode, 0⟩,
  ⟨"vmulhu.vx", 0, .v, "Vd,Vt,sVm", 0x90006057#64, 0xfc00707f#64, .opcode, 0⟩,
  ⟨"vmulhsu.vv", 0, .v, "Vd,Vt,VsVm", 0x98002057#64, 0xfc00707f#64, .opcode, 0⟩,
  ⟨"vmulhsu.vx", 0, .v, "Vd,Vt,sVm", 0x98006057#64, 0xfc00707f#64, .opcode, 0⟩,
  ⟨"vwmul.vv", 0, .v, "Vd,Vt,VsVm", 0xec002057#64, 0xfc00707f#64, .opcode, 0⟩,
  ⟨"vwmul.vx", 0, .v, "Vd,Vt,sVm", 0xec006057#64, 0xfc00707f#64, .opcode, 0⟩,
  ⟨"vwmulu.vv", 0, .v, "Vd,Vt,VsVm", 0xe0002057#64, 0xfc00707f#64, .opcode, 0⟩,
  ⟨"vwmulu.vx", 0, .v, "Vd,Vt,sVm", 0xe0006057#64, 0xfc00707f#64, .opcode, 0⟩,
  ⟨"vwmulsu.vv", 0, .v, "Vd,Vt,VsVm", 0xe8002057#64, 0xfc00707f#64, .opcode, 0⟩,
  ⟨"vwmulsu.vx", 0, .v, "Vd,Vt,sVm", 0xe8006057#64, 0xfc00707f#64, .opcode, 0⟩,
  ⟨"vmacc.vv", 0, .v, "Vd,Vs,VtVm", 0xb4002057#64, 0xfc00707f#64, .opcode, 0⟩,
  ⟨"vmacc.vx", 0, .v, "Vd,s,VtVm", 0xb4006057#64, 0xfc00707f#64, .opcode, 0⟩,
  ⟨"vnmsac.vv", 0, .v, "Vd,Vs,VtVm", 0xbc002057#64, 0xfc00707f#64, .opcode, 0⟩,
  ⟨"vnmsac.vx", 0, .v, "Vd,s,VtVm", 0xbc006057#64, 0xfc00707f#64, .opcode, 0⟩,
  ⟨"vmadd.vv", 0, .v, "Vd,Vs,VtVm", 0xa4002057#64, 0xfc00707f#64, .opcode, 0⟩,
  ⟨"vmadd.vx", 0, .v, "Vd,s,VtVm", 0xa4006057#64, 0xfc00707f#64, .opcode, 0⟩,
  ⟨"vnmsub.vv", 0, .v, "Vd,Vs,VtVm", 0xac002057#64, 0xfc00707f#64, .opcode, 0⟩,
  ⟨"vnmsub.vx", 0, .v, "Vd,s,VtVm", 0xac006057#64, 0xfc00707f#64, .opcode, 0⟩]

def vectorInsns5 : List RiscvOpcodeRow := [
  ⟨"vwmaccu.vv", 0, .v, "Vd,Vs,VtVm", 0xf0002057#64, 0xfc00707f#64, .opcode, 0⟩,
  ⟨"vwmaccu.vx", 0, .v, "Vd,s,VtVm", 0xf0006057#64, 0xfc00707f#64, .opcode, 0⟩,
  ⟨"vwmacc.vv", 0, .v, "Vd,Vs,VtVm", 0xf4002057#64, 0xfc00707f#64, .opcode, 0⟩,
  ⟨"vwmacc.vx", 0, .v, "Vd,s,VtVm", 0xf4006057#64, 0xfc00707f#64, .opcode, 0⟩,
  ⟨"vwmaccsu.vv", 0, .v, "Vd,Vs,VtVm", 0xfc002057#64, 0xfc00707f#64, .opcode, 0⟩,
  ⟨"vwmaccsu.vx", 0, .v, "Vd,s,VtVm", 0xfc006057#64, 0xfc00707f#64, .opcode, 0⟩,
  ⟨"vwmaccus.vx", 0, .v, "Vd,s,VtVm", 0xf8006057#64, 0xfc00707f#64, .opcode, 0⟩,
  ⟨"vdivu.vv", 0, .v, "Vd,Vt,VsVm", 0x80002057#64, 0xfc00707f#64, .opcode, 0⟩,
  ⟨"vdivu.vx", 0, .v, "Vd,Vt,sVm", 0x80006057#64, 0xfc00707f#64, .opcode, 0⟩,
  ⟨"vdiv.vv", 0, .v, "Vd,Vt,VsVm", 0x84002057#64, 0xfc00707f#64, .opcode, 0⟩,
  ⟨"vdiv.vx", 0, .v, "Vd,Vt,sVm", 0x84006057#64, 0xfc00707f#64, .opcode, 0⟩,
  ⟨"vremu.vv", 0, .v, "Vd,Vt,VsVm", 0x88002057#64, 0xfc00707f#64, .opcode, 0⟩,
  ⟨"vremu.vx", 0, .v, "Vd,Vt,sVm", 0x88006057#64, 0xfc00707f#64, .opcode, 0⟩,
  ⟨"vrem.vv", 0, .v, "Vd,Vt,VsVm", 0x8c002057#64, 0xfc00707f#64, .opcode, 0⟩,
  ⟨"vrem.vx", 0, .v, "Vd,Vt,sVm", 0x8c006057#64, 0xfc00707f#64, .opcode, 0⟩,
  ⟨"vmerge.vvm", 0, .v, "Vd,Vt,Vs,V0", 0x5c000057#64, 0xfe00707f#64, .opcode, 0⟩,
  ⟨"vmerge.vxm", 0, .v, "Vd,Vt,s,V0", 0x5c004057#64, 0xfe00707f#64, .opcode, 0⟩,
  ⟨"vmerge.vim", 0, .v, "Vd,Vt,Vi,V0", 0x5c003057#64, 0xfe00707f#64, .opcode, 0⟩,
  ⟨"vmv.v.v", 0, .v, "Vd,Vs", 0x5e000057#64, 0xfff0707f#64, .opcode, 0⟩,
  ⟨"vmv.v.x", 0, .v, "Vd,s", 0x5e004057#64, 0xfff0707f#64, .opcode, 0⟩,
  ⟨"vmv.v.i", 0, .v, "Vd,Vi", 0x5e003057#64, 0xfff0707f#64, .opcode, 0⟩,
  ⟨"vsaddu.vv", 0, .v, "Vd,Vt,VsVm", 0x80000057#64, 0xfc00707f#64, .opcode, 0⟩,
  ⟨"vsaddu.vx", 0, .v, "Vd,Vt,sVm", 0x80004057#64, 0xfc00707f#64, .opcode, 0⟩,
  ⟨"vsaddu.vi", 0, .v, "Vd,Vt,ViVm", 0x80003057#64, 0xfc00707f#64, .opcode, 0⟩,
  ⟨"vsadd.vv", 0, .v, "Vd,Vt,VsVm", 0x84000057#64, 0xfc00707f#64, .opcode, 0⟩,
  ⟨"vsadd.vx", 0, .v, "Vd,Vt,sVm", 0x84004057#64, 0xfc00707f#64, .opcode, 0⟩,
  ⟨"vsadd.vi", 0, .v, "Vd,Vt,ViVm", 0x84003057#64, 0xfc00707f#64, .opcode, 0⟩,
  ⟨"vssubu.vv", 0, .v, "Vd,Vt,VsVm", 0x88000057#64, 0xfc00707f#64, .opcode, 0⟩,
  ⟨"vssubu.vx", 0, .v, "Vd,Vt,sVm", 0x88004057#64, 0xfc00707f#64, .opcode, 0⟩,
  ⟨"vssub.vv", 0, .v, "Vd,Vt,VsVm", 0x8c000057#64, 0xfc00707f#64, .opcode, 0⟩,
  ⟨"vssub.vx", 0, .v, "Vd,Vt,sVm", 0x8c004057#64, 0xfc00707f#64, .opcode, 0⟩,
  ⟨"vaaddu.vv", 0, .v, "Vd,Vt,VsVm", 0x20002057#64, 0xfc00707f#64, .opcode, 0⟩,
  ⟨"vaaddu.vx", 0, .v, "Vd,Vt,sVm", 0x20006057#64, 0xfc00707f#64, .opcode, 0⟩,
  ⟨"vaadd.vv", 0, .v, "Vd,Vt,VsVm", 0x24002057#64, 0xfc00707f#64, .opcode, 0⟩,
  ⟨"vaadd.vx", 0, .v, "Vd,Vt,sVm", 0x24006057#64, 0xfc00707f#64, .opcode, 0⟩,
  ⟨"vasubu.vv", 0, .v, "Vd,Vt,VsVm", 0x28002057#64, 0xfc00707f#64, .opcode, 0⟩,
  ⟨"vasubu.vx", 0, .v, "Vd,Vt,sVm", 0x28006057#64, 0xfc00707f#64, .opcode, 0⟩,
  ⟨"vasub.vv", 0, .v, "Vd,Vt,VsVm", 0x2c002057#64, 0xfc00707f#64, .opcode, 0⟩,
  ⟨"vasub.vx", 0, .v, "Vd,Vt,sVm", 0x2c006057#64, 0xfc00707f#64, .opcode, 0⟩,
  ⟨"vsmul.vv", 0, .v, "Vd,Vt,VsVm", 0x9c000057#64, 0xfc00707f#64, .opcode, 0⟩,
  ⟨"vsmul.vx", 0, .v, "Vd,Vt,sVm", 0x9c004057#64, 0xfc00707f#64, .opcode, 0⟩,
  ⟨"vssrl.vv", 0, .v, "Vd,Vt,VsVm", 0xa8000057#64, 0xfc00707f#64, .opcode, 0⟩,
  ⟨"vssrl.vx", 0, .v, "Vd,Vt,sVm", 0xa8004057#64, 0xfc00707f#64, .opcode, 0⟩,
  ⟨"vssrl.vi", 0, .v, "Vd,Vt,VjVm", 0xa8003057#64, 0xfc00707f#64, .opcode, 0⟩,
  ⟨"vssra.vv", 0, .v, "Vd,Vt,VsVm", 0xac000057#64, 0xfc00707f#64, .opcode, 0⟩,
  ⟨"vssra.vx", 0, .v, "Vd,Vt,sVm", 0xac004057#64, 0xfc00707f#64, .opcode, 0⟩,
  ⟨"vssra.vi", 0, .v, "Vd,Vt,VjVm", 0xac003057#64, 0xfc00707f#64, .opcode, 0⟩,
  ⟨"vnclipu.wv", 0, .v, "Vd,Vt,VsVm", 0xb8000057#64, 0xfc00707f#64, .opcode, 0⟩,
  ⟨"vnclipu.wx", 0, .v, "Vd,Vt,sVm", 0xb8004057#64, 0xfc00707f#64, .opcode, 0⟩,
  ⟨"vnclipu.wi", 0, .v, "Vd,Vt,VjVm", 0xb8003057#64, 0xfc00707f#64, .opcode, 0⟩,
  ⟨"vnclip.wv", 0, .v, "Vd,Vt,VsVm", 0xbc000057#64, 0xfc00707f#64, .opcode, 0⟩,
  ⟨"vnclip.wx", 0, .v, "Vd,Vt,sVm", 0xbc004057#64, 0xfc00707f#64, .opcode, 0⟩,
  ⟨"vnclip.wi", 0, .v, "Vd,Vt,VjVm", 0xbc003057#64, 0xfc00707f#64, .opcode, 0⟩,
  ⟨"vfadd.vv", 0, .zvef, "Vd,Vt,VsVm", 0x1057#64, 0xfc00707f#64, .opcode, 0⟩,
  ⟨"vfadd.vf", 0, .zvef, "Vd,Vt,SVm", 0x5057#64, 0xfc00707f#64, .opcode, 0⟩,
  ⟨"vfsub.vv", 0, .zvef, "Vd,Vt,VsVm", 0x8001057#64, 0xfc00707f#64, .opcode, 0⟩,
  ⟨"vfsub.vf", 0, .zvef, "Vd,Vt,SVm", 0x8005057#64, 0xfc00707f#64, .opcode, 0⟩,
  ⟨"vfrsub.vf", 0, .zvef, "Vd,Vt,SVm", 0x9c005057#64, 0xfc00707f#64, .opcode, 0⟩,
  ⟨"vfwadd.vv", 0, .zvef, "Vd,Vt,VsVm", 0xc0001057#64, 0xfc00707f#64, .opcode, 0⟩,
  ⟨"vfwadd.vf", 0, .zvef, "Vd,Vt,SVm", 0xc0005057#64, 0xfc00707f#64, .opcode, 0⟩,
  ⟨"vfwsub.vv", 0, .zvef, "Vd,Vt,VsVm", 0xc8001057#64, 0xfc00707f#64, .opcode, 0⟩,
  ⟨"vfwsub.vf", 0, .zvef, "Vd,Vt,SVm", 0xc8005057#64, 0xfc00707f#64, .opcode, 0⟩,
  ⟨"vfwadd.wv", 0, .zvef, "Vd,Vt,VsVm", 0xd0001057#64, 0xfc00707f#64, .opcode, 0⟩,
  ⟨"vfwadd.wf", 0, .zvef, "Vd,Vt,SVm", 0xd0005057#64, 0xfc00707f#64, .opcode, 0⟩,
  ⟨"vfwsub.wv", 0, .zvef, "Vd,Vt,VsVm", 0xd8001057#64, 0xfc00707f#64, .opcode, 0⟩,
  ⟨"vfwsub.wf", 0, .zvef, "Vd,Vt,SVm", 0xd8005057#64, 0xfc00707f#64, .opcode, 0⟩,
  ⟨"vfmul.vv", 0, .zvef, "Vd,Vt,VsVm", 0x90001057#64, 0xfc00707f#64, .opcode, 0⟩,
  ⟨"vfmul.vf", 0, .zvef, "Vd,Vt,SVm", 0x90005057#64, 0xfc00707f#64, .opcode, 0⟩,
  ⟨"vfdiv.vv", 0, .zvef, "Vd,Vt,VsVm", 0x80001057#64, 0xfc00707f#64, .opcode, 0⟩,
  ⟨"vfdiv.vf", 0, .zvef, "Vd,Vt,SVm", 0x80005057#64, 0xfc00707f#64, .opcode, 0⟩,
  ⟨"vfrdiv.vf", 0, .zvef, "Vd,Vt,SVm", 0x84005057#64, 0xfc00707f#64, .opcode, 0⟩,
  ⟨"vfwmul.vv", 0, .zvef, "Vd,Vt,VsVm", 0xe0001057#64, 0xfc00707f#64, .opcode, 0⟩,
  ⟨"vfwmul.vf", 0, .zvef, "Vd,Vt,SVm", 0xe0005057#64, 0xfc00707f#64, .opcode, 0⟩,
  ⟨"vfmadd.vv", 0, .zvef, "Vd,Vs,VtVm", 0xa0001057#64, 0xfc00707f#64, .opcode, 0⟩,
  ⟨"vfmadd.vf", 0, .zvef, "Vd,S,VtVm", 0xa0005057#64, 0xfc00707f#64, .opcode, 0⟩,
  ⟨"vfnmadd.vv", 0, .zvef, "Vd,Vs,VtVm", 0xa4001057#64, 0xfc00707f#64, .opcode, 0⟩,
  ⟨"vfnmadd.vf", 0, .zvef, "Vd,S,VtVm", 0xa4005057#64, 0xfc00707f#64, .opcode, 0⟩,
  ⟨"vfmsub.vv", 0, .zvef, "Vd,Vs,VtVm", 0xa8001057#64, 0xfc00707f#64, .opcode, 0⟩,
  ⟨"vfmsub.vf", 0, .zvef, "Vd,S,VtVm", 0xa8005057#64, 0xfc00707f#64, .opcode, 0⟩,
  ⟨"vfnmsub.vv", 0, .zvef, "Vd,Vs,VtVm", 0xac001057#64, 0xfc00707f#64, .opcode, 0⟩,
  ⟨"vfnmsub.vf", 0, .zvef, "Vd,S,VtVm", 0xac005057#64, 0xfc00707f#64, .opcode, 0⟩,
  ⟨"vfmacc.vv", 0, .zvef, "Vd,Vs,VtVm", 0xb0001057#64, 0xfc00707f#64, .opcode, 0⟩,
  ⟨"vfmacc.vf", 0, .zvef, "Vd,S,VtVm", 0xb0005057#64, 0xfc00707f#64, .opcode, 0⟩,
  ⟨"vfnmacc.vv", 0, .zvef, "Vd,Vs,VtVm", 0xb4001057#64, 0xfc00707f#64, .opcode, 0⟩,
  ⟨"vfnmacc.vf", 0, .zvef, "Vd,S,VtVm", 0xb4005057#64, 0xfc00707f#64, .opcode, 0⟩,
  ⟨"vfmsac.vv", 0, .zvef, "Vd,Vs,VtVm", 0xb8001057#64, 0xfc00707f#64, .opcode, 0⟩,
  ⟨"vfmsac.vf", 0, .zvef, "Vd,S,VtVm", 0xb8005057#64, 0xfc00707f#64, .opcode, 0⟩,
  ⟨"vfnmsac.vv", 0, .zvef, "Vd,Vs,VtVm", 0xbc001057#64, 0xfc00707f#64, .opcode, 0⟩,
  ⟨"vfnmsac.vf", 0, .zvef, "Vd,S,VtVm", 0xbc005057#64, 0xfc00707f#64, .opcode, 0⟩,
  ⟨"vfwmacc.vv", 0, .zvef, "Vd,Vs,VtVm", 0xf0001057#64, 0xfc00707f#64, .opcode, 0⟩,
  ⟨"vfwmacc.vf", 0, .zvef, "Vd,S,VtVm", 0xf0005057#64, 0xfc00707f#64, .opcode, 0⟩,
  ⟨"vfwnmacc.vv", 0, .zvef, "Vd,Vs,VtVm", 0xf4001057#64, 0xfc00707f#64, .opcode, 0⟩,
  ⟨"vfwnmacc.vf", 0, .zvef, "Vd,S,VtVm", 0xf4005057#64, 0xfc00707f#64, .opcode, 0⟩,
  ⟨"vfwmsac.vv", 0, .zvef, "Vd,Vs,VtVm", 0xf8001057#64, 0xfc00707f#64, .opcode, 0⟩,
  ⟨"vfwmsac.vf", 0, .zvef, "Vd,S,VtVm", 0xf8005057#64, 0xfc00707f#64, .opcode, 0⟩,
  ⟨"vfwnmsac.vv", 0, .zvef, "Vd,Vs,VtVm", 0xfc001057#64, 0xfc00707f#64, .opcode, 0⟩,
  ⟨"vfwnmsac.vf", 0, .zvef, "Vd,S,VtVm", 0xfc005057#64, 0xfc00707f#64, .opcode, 0⟩,
  ⟨"vfsqrt.v", 0, .zvef, "Vd,VtVm", 0x4c001057#64, 0xfc0ff07f#64, .opcode, 0⟩,
  ⟨"vfrsqrt7.v", 0, .zvef, "Vd,VtVm", 0x4c021057#64, 0xfc0ff07f#64, .opcode, 0⟩,
  ⟨"vfrsqrte7.v", 0, .zvef, "Vd,VtVm", 0x4c021057#64, 0xfc0ff07f#64, .opcode, 0⟩,
  ⟨"vfrec7.v", 0, .zvef, "Vd,VtVm", 0x4c029057#64, 0xfc0ff07f#64, .opcode, 0⟩,
  ⟨"vfrece7.v", 0, .zvef, "Vd,VtVm", 0x4c029057#64, 0xfc0ff07f#64, .opcode, 0⟩,
  ⟨"vfclass.v", 0, .zvef, "Vd,VtVm", 0x4c081057#64, 0xfc0ff07f#64, .opcode, 0⟩,
  ⟨"vfmin.vv", 0, .zvef, "Vd,Vt,VsVm", 0x10001057#64, 0xfc00707f#64, .opcode, 0⟩,
  ⟨"vfmin.vf", 0, .zvef, "Vd,Vt,SVm", 0x10005057#64, 0xfc00707f#64, .opcode, 0⟩,
  ⟨"vfmax.vv", 0, .zvef, "Vd,Vt,VsVm", 0x18001057#64, 0xfc00707f#64, .opcode, 0⟩,
  ⟨"vfmax.vf", 0, .zvef, "Vd,Vt,SVm", 0x18005057#64, 0xfc00707f#64, .opcode, 0⟩,
  ⟨"vfneg.v", 0, .zvef, "Vd,VuVm", 0x24001057#64, 0xfc00707f#64, .vs1EqVs2, insnAlias⟩,
  ⟨"vfabs.v", 0, .zvef, "Vd,VuVm", 0x28001057#64, 0xfc00707f#64, .vs1EqVs2, insnAlias⟩,
  ⟨"vfsgnj.vv", 0, .zvef, "Vd,Vt,VsVm", 0x20001057#64, 0xfc00707f#64, .opcode, 0⟩,
  ⟨"vfsgnj.vf", 0, .zvef, "Vd,Vt,SVm", 0x20005057#64, 0xfc00707f#64, .opcode, 0⟩,
  ⟨"vfsgnjn.vv", 0, .zvef, "Vd,Vt,VsVm", 0x24001057#64, 0xfc00707f#64, .opcode, 0⟩,
  ⟨"vfsgnjn.vf", 0, .zvef, "Vd,Vt,SVm", 0x24005057#64, 0xfc00707f#64, .opcode, 0⟩,
  ⟨"vfsgnjx.vv", 0, .zvef, "Vd,Vt,VsVm", 0x28001057#64, 0xfc00707f#64, .opcode, 0⟩,
  ⟨"vfsgnjx.vf", 0, .zvef, "Vd,Vt,SVm", 0x28005057#64, 0xfc00707f#64, .opcode, 0⟩]

def vectorInsns6 : List RiscvOpcodeRow := [
  ⟨"vmfeq.vv", 0, .zvef, "Vd,Vt,VsVm", 0x60001057#64, 0xfc00707f#64, .opcode, 0⟩,
  ⟨"vmfeq.vf", 0, .zvef, "Vd,Vt,SVm", 0x60005057#64, 0xfc00707f#64, .opcode, 0⟩,
  ⟨"vmfne.vv", 0, .zvef, "Vd,Vt,VsVm", 0x70001057#64, 0xfc00707f#64, .opcode, 0⟩,
  ⟨"vmfne.vf", 0, .zvef, "Vd,Vt,SVm", 0x70005057#64, 0xfc00707f#64, .opcode, 0⟩,
  ⟨"vmflt.vv", 0, .zvef, "Vd,Vt,VsVm", 0x6c001057#64, 0xfc00707f#64, .opcode, 0⟩,
  ⟨"vmflt.vf", 0, .zvef, "Vd,Vt,SVm", 0x6c005057#64, 0xfc00707f#64, .opcode, 0⟩,
  ⟨"vmfle.vv", 0, .zvef, "Vd,Vt,VsVm", 0x64001057#64, 0xfc00707f#64, .opcode, 0⟩,
  ⟨"vmfle.vf", 0, .zvef, "Vd,Vt,SVm", 0x64005057#64, 0xfc00707f#64, .opcode, 0⟩,
  ⟨"vmfgt.vf", 0, .zvef, "Vd,Vt,SVm", 0x74005057#64, 0xfc00707f#64, .opcode, 0⟩,
  ⟨"vmfge.vf", 0, .zvef, "Vd,Vt,SVm", 0x7c005057#64, 0xfc00707f#64, .opcode, 0⟩,
  ⟨"vmfgt.vv", 0, .zvef, "Vd,Vs,VtVm", 0x6c001057#64, 0xfc00707f#64, .opcode, insnAlias⟩,
  ⟨"vmfge.vv", 0, .zvef, "Vd,Vs,VtVm", 0x64001057#64, 0xfc00707f#64, .opcode, insnAlias⟩,
  ⟨"vfmerge.vfm", 0, .zvef, "Vd,Vt,S,V0", 0x5c005057#64, 0xfe00707f#64, .opcode, 0⟩,
  ⟨"vfmv.v.f", 0, .zvef, "Vd,S", 0x5e005057#64, 0xfff0707f#64, .opcode, 0⟩,
  ⟨"vfcvt.xu.f.v", 0, .zvef, "Vd,VtVm", 0x48001057#64, 0xfc0ff07f#64, .opcode, 0⟩,
  ⟨"vfcvt.x.f.v", 0, .zvef, "Vd,VtVm", 0x48009057#64, 0xfc0ff07f#64, .opcode, 0⟩,
  ⟨"vfcvt.rtz.xu.f.v", 0, .zvef, "Vd,VtVm", 0x48031057#64, 0xfc0ff07f#64, .opcode, 0⟩,
  ⟨"vfcvt.rtz.x.f.v", 0, .zvef, "Vd,VtVm", 0x48039057#64, 0xfc0ff07f#64, .opcode, 0⟩,
  ⟨"vfcvt.f.xu.v", 0, .zvef, "Vd,VtVm", 0x48011057#64, 0xfc0ff07f#64, .opcode, 0⟩,
  ⟨"vfcvt.f.x.v", 0, .zvef, "Vd,VtVm", 0x48019057#64, 0xfc0ff07f#64, .opcode, 0⟩,
  ⟨"vfwcvt.xu.f.v", 0, .zvef, "Vd,VtVm", 0x48041057#64, 0xfc0ff07f#64, .opcode, 0⟩,
  ⟨"vfwcvt.x.f.v", 0, .zvef, "Vd,VtVm", 0x48049057#64, 0xfc0ff07f#64, .opcode, 0⟩,
  ⟨"vfwcvt.rtz.xu.f.v", 0, .zvef, "Vd,VtVm", 0x48071057#64, 0xfc0ff07f#64, .opcode, 0⟩,
  ⟨"vfwcvt.rtz.x.f.v", 0, .zvef, "Vd,VtVm", 0x48079057#64, 0xfc0ff07f#64, .opcode, 0⟩,
  ⟨"vfwcvt.f.xu.v", 0, .zvef, "Vd,VtVm", 0x48051057#64, 0xfc0ff07f#64, .opcode, 0⟩,
  ⟨"vfwcvt.f.x.v", 0, .zvef, "Vd,VtVm", 0x48059057#64, 0xfc0ff07f#64, .opcode, 0⟩,
  ⟨"vfwcvt.f.f.v", 0, .zvef, "Vd,VtVm", 0x48061057#64, 0xfc0ff07f#64, .opcode, 0⟩,
  ⟨"vfncvt.xu.f.w", 0, .zvef, "Vd,VtVm", 0x48081057#64, 0xfc0ff07f#64, .opcode, 0⟩,
  ⟨"vfncvt.x.f.w", 0, .zvef, "Vd,VtVm", 0x48089057#64, 0xfc0ff07f#64, .opcode, 0⟩,
  ⟨"vfncvt.rtz.xu.f.w", 0, .zvef, "Vd,VtVm", 0x480b1057#64, 0xfc0ff07f#64, .opcode, 0⟩,
  ⟨"vfncvt.rtz.x.f.w", 0, .zvef, "Vd,VtVm", 0x480b9057#64, 0xfc0ff07f#64, .opcode, 0⟩,
  ⟨"vfncvt.f.xu.w", 0, .zvef, "Vd,VtVm", 0x48091057#64, 0xfc0ff07f#64, .opcode, 0⟩,
  ⟨"vfncvt.f.x.w", 0, .zvef, "Vd,VtVm", 0x48099057#64, 0xfc0ff07f#64, .opcode, 0⟩,
  ⟨"vfncvt.f.f.w", 0, .zvef, "Vd,VtVm", 0x480a1057#64, 0xfc0ff07f#64, .opcode, 0⟩,
  ⟨"vfncvt.rod.f.f.w", 0, .zvef, "Vd,VtVm", 0x480a9057#64, 0xfc0ff07f#64, .opcode, 0⟩,
  ⟨"vredsum.vs", 0, .v, "Vd,Vt,VsVm", 0x2057#64, 0xfc00707f#64, .opcode, 0⟩,
  ⟨"vredmaxu.vs", 0, .v, "Vd,Vt,VsVm", 0x18002057#64, 0xfc00707f#64, .opcode, 0⟩,
  ⟨"vredmax.vs", 0, .v, "Vd,Vt,VsVm", 0x1c002057#64, 0xfc00707f#64, .opcode, 0⟩,
  ⟨"vredminu.vs", 0, .v, "Vd,Vt,VsVm", 0x10002057#64, 0xfc00707f#64, .opcode, 0⟩,
  ⟨"vredmin.vs", 0, .v, "Vd,Vt,VsVm", 0x14002057#64, 0xfc00707f#64, .opcode, 0⟩,
  ⟨"vredand.vs", 0, .v, "Vd,Vt,VsVm", 0x4002057#64, 0xfc00707f#64, .opcode, 0⟩,
  ⟨"vredor.vs", 0, .v, "Vd,Vt,VsVm", 0x8002057#64, 0xfc00707f#64, .opcode, 0⟩,
  ⟨"vredxor.vs", 0, .v, "Vd,Vt,VsVm", 0xc002057#64, 0xfc00707f#64, .opcode, 0⟩,
  ⟨"vwredsumu.vs", 0, .v, "Vd,Vt,VsVm", 0xc0000057#64, 0xfc00707f#64, .opcode, 0⟩,
  ⟨"vwredsum.vs", 0, .v, "Vd,Vt,VsVm", 0xc4000057#64, 0xfc00707f#64, .opcode, 0⟩,
  ⟨"vfredosum.vs", 0, .zvef, "Vd,Vt,VsVm", 0xc001057#64, 0xfc00707f#64, .opcode, 0⟩,
  ⟨"vfredusum.vs", 0, .zvef, "Vd,Vt,VsVm", 0x4001057#64, 0xfc00707f#64, .opcode, 0⟩,
  ⟨"vfredsum.vs", 0, .zvef, "Vd,Vt,VsVm", 0x4001057#64, 0xfc00707f#64, .opcode, insnAlias⟩,
  ⟨"vfredmax.vs", 0, .zvef, "Vd,Vt,VsVm", 0x1c001057#64, 0xfc00707f#64, .opcode, 0⟩,
  ⟨"vfredmin.vs", 0, .zvef, "Vd,Vt,VsVm", 0x14001057#64, 0xfc00707f#64, .opcode, 0⟩,
  ⟨"vfwredosum.vs", 0, .zvef, "Vd,Vt,VsVm", 0xcc001057#64, 0xfc00707f#64, .opcode, 0⟩,
  ⟨"vfwredusum.vs", 0, .zvef, "Vd,Vt,VsVm", 0xc4001057#64, 0xfc00707f#64, .opcode, 0⟩,
  ⟨"vfwredsum.vs", 0, .zvef, "Vd,Vt,VsVm", 0xc4001057#64, 0xfc00707f#64, .opcode, insnAlias⟩,
  ⟨"vmmv.m", 0, .v, "Vd,Vu", 0x66002057#64, 0xfe00707f#64, .vs1EqVs2, insnAlias⟩,
  ⟨"vmcpy.m", 0, .v, "Vd,Vu", 0x66002057#64, 0xfe00707f#64, .vs1EqVs2, insnAlias⟩,
  ⟨"vmclr.m", 0, .v, "Vv", 0x6e002057#64, 0xfe00707f#64, .vdEqVs1EqVs2, insnAlias⟩,
  ⟨"vmset.m", 0, .v, "Vv", 0x7e002057#64, 0xfe00707f#64, .vdEqVs1EqVs2, insnAlias⟩,
  ⟨"vmnot.m", 0, .v, "Vd,Vu", 0x76002057#64, 0xfe00707f#64, .vs1EqVs2, insnAlias⟩,
  ⟨"vmand.mm", 0, .v, "Vd,Vt,Vs", 0x66002057#64, 0xfe00707f#64, .opcode, 0⟩,
  ⟨"vmnand.mm", 0, .v, "Vd,Vt,Vs", 0x76002057#64, 0xfe00707f#64, .opcode, 0⟩,
  ⟨"vmandn.mm", 0, .v, "Vd,Vt,Vs", 0x62002057#64, 0xfe00707f#64, .opcode, 0⟩,
  ⟨"vmandnot.mm", 0, .v, "Vd,Vt,Vs", 0x62002057#64, 0xfe00707f#64, .opcode, insnAlias⟩,
  ⟨"vmxor.mm", 0, .v, "Vd,Vt,Vs", 0x6e002057#64, 0xfe00707f#64, .opcode, 0⟩,
  ⟨"vmor.mm", 0, .v, "Vd,Vt,Vs", 0x6a002057#64, 0xfe00707f#64, .opcode, 0⟩,
  ⟨"vmnor.mm", 0, .v, "Vd,Vt,Vs", 0x7a002057#64, 0xfe00707f#64, .opcode, 0⟩,
  ⟨"vmorn.mm", 0, .v, "Vd,Vt,Vs", 0x72002057#64, 0xfe00707f#64, .opcode, 0⟩,
  ⟨"vmornot.mm", 0, .v, "Vd,Vt,Vs", 0x72002057#64, 0xfe00707f#64, .opcode, insnAlias⟩,
  ⟨"vmxnor.mm", 0, .v, "Vd,Vt,Vs", 0x7e002057#64, 0xfe00707f#64, .opcode, 0⟩,
  ⟨"vcpop.m", 0, .v, "d,VtVm", 0x40082057#64, 0xfc0ff07f#64, .opcode, 0⟩,
  ⟨"vpopc.m", 0, .v, "d,VtVm", 0x40082057#64, 0xfc0ff07f#64, .opcode, insnAlias⟩,
  ⟨"vfirst.m", 0, .v, "d,VtVm", 0x4008a057#64, 0xfc0ff07f#64, .opcode, 0⟩,
  ⟨"vmsbf.m", 0, .v, "Vd,VtVm", 0x5000a057#64, 0xfc0ff07f#64, .opcode, 0⟩,
  ⟨"vmsif.m", 0, .v, "Vd,VtVm", 0x5001a057#64, 0xfc0ff07f#64, .opcode, 0⟩,
  ⟨"vmsof.m", 0, .v, "Vd,VtVm", 0x50012057#64, 0xfc0ff07f#64, .opcode, 0⟩,
  ⟨"viota.m", 0, .v, "Vd,VtVm", 0x50082057#64, 0xfc0ff07f#64, .opcode, 0⟩,
  ⟨"vid.v", 0, .v, "VdVm", 0x5008a057#64, 0xfdfff07f#64, .opcode, 0⟩,
  ⟨"vmv.x.s", 0, .v, "d,Vt", 0x42002057#64, 0xfe0ff07f#64, .opcode, 0⟩,
  ⟨"vmv.s.x", 0, .v, "Vd,s", 0x42006057#64, 0xfff0707f#64, .opcode, 0⟩,
  ⟨"vfmv.f.s", 0, .zvef, "D,Vt", 0x42001057#64, 0xfe0ff07f#64, .opcode, 0⟩,
  ⟨"vfmv.s.f", 0, .zvef, "Vd,S", 0x42005057#64, 0xfff0707f#64, .opcode, 0⟩,
  ⟨"vslideup.vx", 0, .v, "Vd,Vt,sVm", 0x38004057#64, 0xfc00707f#64, .opcode, 0⟩,
  ⟨"vslideup.vi", 0, .v, "Vd,Vt,VjVm", 0x38003057#64, 0xfc00707f#64, .opcode, 0⟩,
  ⟨"vslidedown.vx", 0, .v, "Vd,Vt,sVm", 0x3c004057#64, 0xfc00707f#64, .opcode, 0⟩,
  ⟨"vslidedown.vi", 0, .v, "Vd,Vt,VjVm", 0x3c003057#64, 0xfc00707f#64, .opcode, 0⟩,
  ⟨"vslide1up.vx", 0, .v, "Vd,Vt,sVm", 0x38006057#64, 0xfc00707f#64, .opcode, 0⟩,
  ⟨"vslide1down.vx", 0, .v, "Vd,Vt,sVm", 0x3c006057#64, 0xfc00707f#64, .opcode, 0⟩,
  ⟨"vfslide1up.vf", 0, .zvef, "Vd,Vt,SVm", 0x38005057#64, 0xfc00707f#64, .opcode, 0⟩,
  ⟨"vfslide1down.vf", 0, .zvef, "Vd,Vt,SVm", 0x3c005057#64, 0xfc00707f#64, .opcode, 0⟩,
  ⟨"vrgather.vv", 0, .v, "Vd,Vt,VsVm", 0x30000057#64, 0xfc00707f#64, .opcode, 0⟩,
  ⟨"vrgather.vx", 0, .v, "Vd,Vt,sVm", 0x30004057#64, 0xfc00707f#64, .opcode, 0⟩,
  ⟨"vrgather.vi", 0, .v, "Vd,Vt,VjVm", 0x30003057#64, 0xfc00707f#64, .opcode, 0⟩,
  ⟨"vrgatherei16.vv", 0, .v, "Vd,Vt,VsVm", 0x38000057#64, 0xfc00707f#64, .opcode, 0⟩,
  ⟨"vcompress.vm", 0, .v, "Vd,Vt,Vs", 0x5e002057#64, 0xfe00707f#64, .opcode, 0⟩,
  ⟨"vmv1r.v", 0, .v, "Vd,Vt", 0x9e003057#64, 0xfe0ff07f#64, .opcode, 0⟩,
  ⟨"vmv2r.v", 0, .v, "Vd,Vt", 0x9e00b057#64, 0xfe0ff07f#64, .opcode, 0⟩,
  ⟨"vmv4r.v", 0, .v, "Vd,Vt", 0x9e01b057#64, 0xfe0ff07f#64, .opcode, 0⟩,
  ⟨"vmv8r.v", 0, .v, "Vd,Vt", 0x9e03b057#64, 0xfe0ff07f#64, .opcode, 0⟩]

def vectorInsns : List RiscvOpcodeRow :=
  vectorInsns1 ++ vectorInsns2 ++ vectorInsns3 ++ vectorInsns4 ++ vectorInsns5 ++ vectorInsns6

/-- Zvbb, Zvkb, Zvbc, Zvkg, Zvkned, Zvknha, Zvknhb, Zvksed and Zvksh instructions. -/
def vectorCryptoInsns : List RiscvOpcodeRow := [
  ⟨"vandn.vv", 0, .zvkb, "Vd,Vt,VsVm", 0x4000057#64, 0xfc00707f#64, .opcode, 0⟩,
  ⟨"vandn.vx", 0, .zvkb, "Vd,Vt,sVm", 0x4004057#64, 0xfc00707f#64, .opcode, 0⟩,
  ⟨"vbrev.v", 0, .zvbb, "Vd,VtVm", 0x48052057#64, 0xfc0ff07f#64, .opcode, 0⟩,
  ⟨"vbrev8.v", 0, .zvkb, "Vd,VtVm", 0x48042057#64, 0xfc0ff07f#64, .opcode, 0⟩,
  ⟨"vrev8.v", 0, .zvkb, "Vd,VtVm", 0x4804a057#64, 0xfc0ff07f#64, .opcode, 0⟩,
  ⟨"vclz.v", 0, .zvbb, "Vd,VtVm", 0x48062057#64, 0xfc0ff07f#64, .opcode, 0⟩,
  ⟨"vctz.v", 0, .zvbb, "Vd,VtVm", 0x4806a057#64, 0xfc0ff07f#64, .opcode, 0⟩,
  ⟨"vcpop.v", 0, .zvbb, "Vd,VtVm", 0x48072057#64, 0xfc0ff07f#64, .opcode, 0⟩,
  ⟨"vrol.vv", 0, .zvkb, "Vd,Vt,VsVm", 0x54000057#64, 0xfc00707f#64, .opcode, 0⟩,
  ⟨"vrol.vx", 0, .zvkb, "Vd,Vt,sVm", 0x54004057#64, 0xfc00707f#64, .opcode, 0⟩,
  ⟨"vror.vv", 0, .zvkb, "Vd,Vt,VsVm", 0x50000057#64, 0xfc00707f#64, .opcode, 0⟩,
  ⟨"vror.vx", 0, .zvkb, "Vd,Vt,sVm", 0x50004057#64, 0xfc00707f#64, .opcode, 0⟩,
  ⟨"vror.vi", 0, .zvkb, "Vd,Vt,VlVm", 0x50003057#64, 0xf800707f#64, .opcode, 0⟩,
  ⟨"vwsll.vv", 0, .zvbb, "Vd,Vt,VsVm", 0xd4000057#64, 0xfc00707f#64, .opcode, 0⟩,
  ⟨"vwsll.vx", 0, .zvbb, "Vd,Vt,sVm", 0xd4004057#64, 0xfc00707f#64, .opcode, 0⟩,
  ⟨"vwsll.vi", 0, .zvbb, "Vd,Vt,VjVm", 0xd4003057#64, 0xfc00707f#64, .opcode, 0⟩,
  ⟨"vclmul.vv", 0, .zvbc, "Vd,Vt,VsVm", 0x30002057#64, 0xfc00707f#64, .opcode, 0⟩,
  ⟨"vclmul.vx", 0, .zvbc, "Vd,Vt,sVm", 0x30006057#64, 0xfc00707f#64, .opcode, 0⟩,
  ⟨"vclmulh.vv", 0, .zvbc, "Vd,Vt,VsVm", 0x34002057#64, 0xfc00707f#64, .opcode, 0⟩,
  ⟨"vclmulh.vx", 0, .zvbc, "Vd,Vt,sVm", 0x34006057#64, 0xfc00707f#64, .opcode, 0⟩,
  ⟨"vghsh.vv", 0, .zvkg, "Vd,Vt,Vs", 0xb2002077#64, 0xfe00707f#64, .opcode, 0⟩,
  ⟨"vgmul.vv", 0, .zvkg, "Vd,Vt", 0xa208a077#64, 0xfe0ff07f#64, .opcode, 0⟩,
  ⟨"vaesdf.vv", 0, .zvkned, "Vd,Vt", 0xa200a077#64, 0xfe0ff07f#64, .opcode, 0⟩,
  ⟨"vaesdf.vs", 0, .zvkned, "Vd,Vt", 0xa600a077#64, 0xfe0ff07f#64, .opcode, 0⟩,
  ⟨"vaesdm.vv", 0, .zvkned, "Vd,Vt", 0xa2002077#64, 0xfe0ff07f#64, .opcode, 0⟩,
  ⟨"vaesdm.vs", 0, .zvkned, "Vd,Vt", 0xa6002077#64, 0xfe0ff07f#64, .opcode, 0⟩,
  ⟨"vaesef.vv", 0, .zvkned, "Vd,Vt", 0xa201a077#64, 0xfe0ff07f#64, .opcode, 0⟩,
  ⟨"vaesef.vs", 0, .zvkned, "Vd,Vt", 0xa601a077#64, 0xfe0ff07f#64, .opcode, 0⟩,
  ⟨"vaesem.vv", 0, .zvkned, "Vd,Vt", 0xa2012077#64, 0xfe0ff07f#64, .opcode, 0⟩,
  ⟨"vaesem.vs", 0, .zvkned, "Vd,Vt", 0xa6012077#64, 0xfe0ff07f#64, .opcode, 0⟩,
  ⟨"vaeskf1.vi", 0, .zvkned, "Vd,Vt,Vj", 0x8a002077#64, 0xfe00707f#64, .opcode, 0⟩,
  ⟨"vaeskf2.vi", 0, .zvkned, "Vd,Vt,Vj", 0xaa002077#64, 0xfe00707f#64, .opcode, 0⟩,
  ⟨"vaesz.vs", 0, .zvkned, "Vd,Vt", 0xa603a077#64, 0xfe0ff07f#64, .opcode, 0⟩,
  ⟨"vsha2ch.vv", 0, .zvknhaOrZvknhb, "Vd,Vt,Vs", 0xba002077#64, 0xfe00707f#64, .opcode, 0⟩,
  ⟨"vsha2cl.vv", 0, .zvknhaOrZvknhb, "Vd,Vt,Vs", 0xbe002077#64, 0xfe00707f#64, .opcode, 0⟩,
  ⟨"vsha2ms.vv", 0, .zvknhaOrZvknhb, "Vd,Vt,Vs", 0xb6002077#64, 0xfe00707f#64, .opcode, 0⟩,
  ⟨"vsm4k.vi", 0, .zvksed, "Vd,Vt,Vj", 0x86002077#64, 0xfe00707f#64, .opcode, 0⟩,
  ⟨"vsm4r.vv", 0, .zvksed, "Vd,Vt", 0xa2082077#64, 0xfe0ff07f#64, .opcode, 0⟩,
  ⟨"vsm4r.vs", 0, .zvksed, "Vd,Vt", 0xa6082077#64, 0xfe0ff07f#64, .opcode, 0⟩,
  ⟨"vsm3c.vi", 0, .zvksh, "Vd,Vt,Vj", 0xae002077#64, 0xfe00707f#64, .opcode, 0⟩,
  ⟨"vsm3me.vv", 0, .zvksh, "Vd,Vt,Vs", 0x82002077#64, 0xfe00707f#64, .opcode, 0⟩]

end RiscvBinutils.Opcode
