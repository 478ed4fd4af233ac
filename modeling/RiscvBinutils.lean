import RiscvBinutils.Base.Buffer
import RiscvBinutils.Base.Shrink
import RiscvBinutils.Base.Bits
import RiscvBinutils.Base.Bytes
import RiscvBinutils.Base.Bump
import RiscvBinutils.Base.OrdList
import RiscvBinutils.Base.Limbs
import RiscvBinutils.Base.Search
import RiscvBinutils.Base.Marks
import RiscvBinutils.Base.Bucket
import RiscvBinutils.Base.Positive
import RiscvBinutils.Opcode.Imm
import RiscvBinutils.Opcode.Formats
import RiscvBinutils.Opcode.Length
import RiscvBinutils.Opcode.Mapping
import RiscvBinutils.Opcode.Operand
import RiscvBinutils.Opcode.Row
import RiscvBinutils.Opcode.TableBase
import RiscvBinutils.Opcode.TableVector
import RiscvBinutils.Opcode.TableVendor
import RiscvBinutils.Opcode.Table
import RiscvBinutils.Machine.Exec
import RiscvBinutils.Machine.Decode
import RiscvBinutils.Machine.Vector
import RiscvBinutils.Bfd.Basic
import RiscvBinutils.Bfd.Delete
import RiscvBinutils.Bfd.Perform
import RiscvBinutils.Bfd.Distance
import RiscvBinutils.Bfd.Link
import RiscvBinutils.Bfd.Relax
import RiscvBinutils.Bfd.RelaxLui
import RiscvBinutils.Bfd.RelaxPc
import RiscvBinutils.Bfd.RelaxTls
import RiscvBinutils.Bfd.Align
import RiscvBinutils.Bfd.Relocate
import RiscvBinutils.Bfd.PcrelPair
import RiscvBinutils.Bfd.Got
import RiscvBinutils.Bfd.AddSub
import RiscvBinutils.Bfd.Exact
import RiscvBinutils.Bfd.Uleb
import RiscvBinutils.Bfd.Plt
import RiscvBinutils.Isa.Name
import RiscvBinutils.Isa.SubsetList
import RiscvBinutils.Isa.Tables
import RiscvBinutils.Isa.Parse
import RiscvBinutils.Isa.Implied
import RiscvBinutils.Isa.Supports
import RiscvBinutils.Isa.Scan
import RiscvBinutils.Isa.Parsed
import RiscvBinutils.Isa.Written
import RiscvBinutils.Isa.Faithful
import RiscvBinutils.Isa.Invariant
import RiscvBinutils.Isa.Render
import RiscvBinutils.Isa.Lowered
import RiscvBinutils.Isa.Update
import RiscvBinutils.Isa.Merge
import RiscvBinutils.Isa.Merged
import RiscvBinutils.Isa.Access
import RiscvBinutils.Isa.Compare
import RiscvBinutils.Isa.AccessRun
import RiscvBinutils.Isa.AccessSafe
import RiscvBinutils.Isa.AccessExact
import RiscvBinutils.Isa.Version
import RiscvBinutils.Isa.IntVersions
import RiscvBinutils.Isa.ArchBuffer
import RiscvBinutils.Isa.MergeUnion
import RiscvBinutils.Isa.MergeOrder
import RiscvBinutils.Bfd.MergePrivate
import RiscvBinutils.Gas.Fixup
import RiscvBinutils.Gas.PcrelFixup
import RiscvBinutils.Gas.Option
import RiscvBinutils.Gas.Rvc
import RiscvBinutils.Gas.Assemble
import RiscvBinutils.Gas.AlignCode
import RiscvBinutils.Gas.Fixed
import RiscvBinutils.Gas.LoadConst
import RiscvBinutils.Gas.Resolved
import RiscvBinutils.Gas.BranchRelax
import RiscvBinutils.Bfd.AlignBytes
import RiscvBinutils.Bfd.RelaxCall
import RiscvBinutils.Bfd.RelaxCLui
import RiscvBinutils.Bfd.BaseRegister
import RiscvBinutils.Bfd.Moved
import RiscvBinutils.Gas.Expr
import RiscvBinutils.Gas.Hardcode
import RiscvBinutils.Gas.Numeral
import RiscvBinutils.Gas.InsnWritten
import RiscvBinutils.Gas.VectorMacro
import RiscvBinutils.Gas.Mapping
import RiscvBinutils.Gas.AlignFill
import RiscvBinutils.Gas.MappingFrags
import RiscvBinutils.Gas.MappingCheck
import RiscvBinutils.Dis.Insn
import RiscvBinutils.Dis.Mapping
import RiscvBinutils.Dis.DataLength
import RiscvBinutils.Dis.Hash
import RiscvBinutils.Base.Masked
import RiscvBinutils.Opcode.TableInsn
import RiscvBinutils.Opcode.Slots
import RiscvBinutils.Gas.Operands
import RiscvBinutils.Gas.OperandFrame
import RiscvBinutils.Gas.OperandValues
import RiscvBinutils.Gas.OperandKept
import RiscvBinutils.Gas.OperandFixup
import RiscvBinutils.Gas.Recognized
import RiscvBinutils.Bfd.PairRuns
import RiscvBinutils.Gas.AddressMacro
import RiscvBinutils.Gas.CallMacro
