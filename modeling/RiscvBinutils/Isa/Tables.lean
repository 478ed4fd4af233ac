/-
The tables of the ISA-string parser (bfd/elfxx-riscv.c): the extensions with their default versions, and the
extensions that come with others.
-/
import RiscvBinutils.Isa.SubsetList

namespace RiscvBinutils.Isa

/-! ## Supported extensions -/

/-- `enum riscv_spec_class`, the ISA specifications. -/
inductive IsaSpecClass
  | none | c2p2 | c20190608 | c20191213 | draft
  deriving DecidableEq, Repr

/-- `struct riscv_supported_ext`. -/
structure SupportedExt where
  name : Name
  isaSpecClass : IsaSpecClass
  major : Int
  minor : Int
  /-- `default_enable & EXT_DEFAULT`. -/
  defaultEnable : Bool := false
  deriving DecidableEq, Repr

/-- A row of the tables. -/
def ext (name : String) (isaSpecClass : IsaSpecClass) (major minor : Int) : SupportedExt :=
  { name := name.toList, isaSpecClass, major, minor }

/-- `riscv_supported_std_ext`. -/
def riscvSupportedStdExt : List SupportedExt :=
  [ext "e" .c20191213 1 9, ext "e" .c20190608 1 9, ext "e" .c2p2 1 9, ext "i" .c20191213 2 1,
    ext "i" .c20190608 2 1, ext "i" .c2p2 2 0,
    { ext "g" .none riscvUnknownVersion riscvUnknownVersion with defaultEnable := true },
    ext "m" .c20191213 2 0, ext "m" .c20190608 2 0, ext "m" .c2p2 2 0, ext "a" .c20191213 2 1,
    ext "a" .c20190608 2 0, ext "a" .c2p2 2 0, ext "f" .c20191213 2 2, ext "f" .c20190608 2 2,
    ext "f" .c2p2 2 0, ext "d" .c20191213 2 2, ext "d" .c20190608 2 2, ext "d" .c2p2 2 0,
    ext "q" .c20191213 2 2, ext "q" .c20190608 2 2, ext "q" .c2p2 2 0, ext "c" .c20191213 2 0,
    ext "c" .c20190608 2 0, ext "c" .c2p2 2 0, ext "v" .draft 1 0, ext "h" .draft 1 0]

/-- `riscv_supported_std_z_ext`. -/
def riscvSupportedStdZExt : List SupportedExt :=
  [ext "zicbom" .draft 1 0, ext "zicbop" .draft 1 0, ext "zicboz" .draft 1 0, ext "zicond" .draft 1 0,
    ext "zicntr" .draft 2 0, ext "zicsr" .c20191213 2 0, ext "zicsr" .c20190608 2 0,
    ext "zifencei" .c20191213 2 0, ext "zifencei" .c20190608 2 0, ext "zihintntl" .draft 1 0,
    ext "zihintpause" .draft 2 0, ext "zihpm" .draft 2 0, ext "zmmul" .draft 1 0, ext "zawrs" .draft 1 0,
    ext "zfa" .draft 1 0, ext "zfh" .draft 1 0, ext "zfhmin" .draft 1 0, ext "zfinx" .draft 1 0,
    ext "zdinx" .draft 1 0, ext "zqinx" .draft 1 0, ext "zhinx" .draft 1 0, ext "zhinxmin" .draft 1 0,
    ext "zbb" .draft 1 0, ext "zba" .draft 1 0, ext "zbc" .draft 1 0, ext "zbs" .draft 1 0,
    ext "zbkb" .draft 1 0, ext "zbkc" .draft 1 0, ext "zbkx" .draft 1 0, ext "zk" .draft 1 0,
    ext "zkn" .draft 1 0, ext "zknd" .draft 1 0, ext "zkne" .draft 1 0, ext "zknh" .draft 1 0,
    ext "zkr" .draft 1 0, ext "zks" .draft 1 0, ext "zksed" .draft 1 0, ext "zksh" .draft 1 0,
    ext "zkt" .draft 1 0, ext "zve32x" .draft 1 0, ext "zve32f" .draft 1 0, ext "zve64x" .draft 1 0,
    ext "zve64f" .draft 1 0, ext "zve64d" .draft 1 0, ext "zvbb" .draft 1 0, ext "zvbc" .draft 1 0,
    ext "zvfh" .draft 1 0, ext "zvfhmin" .draft 1 0, ext "zvkb" .draft 1 0, ext "zvkg" .draft 1 0,
    ext "zvkn" .draft 1 0, ext "zvkng" .draft 1 0, ext "zvknc" .draft 1 0, ext "zvkned" .draft 1 0,
    ext "zvknha" .draft 1 0, ext "zvknhb" .draft 1 0, ext "zvksed" .draft 1 0, ext "zvksh" .draft 1 0,
    ext "zvks" .draft 1 0, ext "zvksg" .draft 1 0, ext "zvksc" .draft 1 0, ext "zvkt" .draft 1 0,
    ext "zvl32b" .draft 1 0, ext "zvl64b" .draft 1 0, ext "zvl128b" .draft 1 0, ext "zvl256b" .draft 1 0,
    ext "zvl512b" .draft 1 0, ext "zvl1024b" .draft 1 0, ext "zvl2048b" .draft 1 0, ext "zvl4096b" .draft 1 0,
    ext "zvl8192b" .draft 1 0, ext "zvl16384b" .draft 1 0, ext "zvl32768b" .draft 1 0,
    ext "zvl65536b" .draft 1 0, ext "ztso" .draft 1 0, ext "zca" .draft 1 0, ext "zcb" .draft 1 0,
    ext "zcf" .draft 1 0, ext "zcd" .draft 1 0]

/-- `riscv_supported_std_s_ext`. -/
def riscvSupportedStdSExt : List SupportedExt :=
  [ext "smaia" .draft 1 0, ext "smcntrpmf" .draft 1 0, ext "smepmp" .draft 1 0, ext "smstateen" .draft 1 0,
    ext "ssaia" .draft 1 0, ext "sscofpmf" .draft 1 0, ext "ssstateen" .draft 1 0, ext "sstc" .draft 1 0,
    ext "svadu" .draft 1 0, ext "svinval" .draft 1 0, ext "svnapot" .draft 1 0, ext "svpbmt" .draft 1 0]

/-- `riscv_supported_std_zxm_ext`. -/
def riscvSupportedStdZxmExt : List SupportedExt :=
  []

/-- `riscv_supported_vendor_x_ext`. -/
def riscvSupportedVendorXExt : List SupportedExt :=
  [ext "xcvmac" .draft 1 0, ext "xcvalu" .draft 1 0, ext "xtheadba" .draft 1 0, ext "xtheadbb" .draft 1 0,
    ext "xtheadbs" .draft 1 0, ext "xtheadcmo" .draft 1 0, ext "xtheadcondmov" .draft 1 0,
    ext "xtheadfmemidx" .draft 1 0, ext "xtheadfmv" .draft 1 0, ext "xtheadint" .draft 1 0,
    ext "xtheadmac" .draft 1 0, ext "xtheadmemidx" .draft 1 0, ext "xtheadmempair" .draft 1 0,
    ext "xtheadsync" .draft 1 0, ext "xtheadvector" .draft 1 0, ext "xtheadzvamo" .draft 1 0,
    ext "xventanacondops" .draft 1 0, ext "xsfvcp" .draft 1 0]

/-- `riscv_all_supported_ext`. -/
def riscvAllSupportedExt : List SupportedExt :=
  riscvSupportedStdExt ++ riscvSupportedStdZExt ++ riscvSupportedStdSExt ++ riscvSupportedStdZxmExt ++
    riscvSupportedVendorXExt

/-- The table for a class. -/
def PrefixClass.supported : PrefixClass → List SupportedExt
  | .zxm => riscvSupportedStdZxmExt
  | .z => riscvSupportedStdZExt
  | .s => riscvSupportedStdSExt
  | .x => riscvSupportedVendorXExt
  | .single => riscvSupportedStdExt

/-- `riscv_get_default_ext_version`; `none` for a null pointer, and for the versions left as they are. -/
def riscvGetDefaultExtVersion (isaSpec : Option IsaSpecClass) (name : Name) : Option (Int × Int) :=
  match isaSpec with
  | .none | .some .none => .none
  | .some spec =>
    ((riscvGetPrefixClass name).supported.find? fun e =>
        e.name = name ∧ (e.isaSpecClass = .draft ∨ e.isaSpecClass = spec)).map fun e => (e.major, e.minor)

/-- `riscv_recognized_prefixed_ext`. -/
def riscvRecognizedPrefixedExt (name : Name) : Bool :=
  match riscvGetPrefixClass name with
  | .single => false
  | .x => name ≠ ['x']
  | c => c.supported.any (·.name = name)

/-! ## Implied extensions -/

/-- `check_func` of a row. -/
inductive ImplicitCheck
  /-- `check_implicit_always`. -/
  | always
  /-- `check_implicit_for_i`. -/
  | forI
  deriving DecidableEq, Repr

/-- Add the extension only when the version is less than 2.1, or always. -/
def ImplicitCheck.holds : ImplicitCheck → Subset → Bool
  | .always, _ => true
  | .forI, s => s.major < 2 ∨ (s.major = 2 ∧ s.minor < 1)

/-- `struct riscv_implicit_subset`. -/
structure ImplicitSubset where
  subsetName : Name
  implicitName : Name
  check : ImplicitCheck := .always
  deriving DecidableEq, Repr

/-- A row of the table. -/
def implies (subset implicit : String) : ImplicitSubset :=
  { subsetName := subset.toList, implicitName := implicit.toList }

/-- `riscv_implicit_subsets`. -/
def riscvImplicitSubsets : List ImplicitSubset :=
  [implies "e" "i", { implies "i" "zicsr" with check := .forI },
    { implies "i" "zifencei" with check := .forI }, implies "g" "i", implies "g" "m", implies "g" "a",
    implies "g" "f", implies "g" "d", implies "g" "zicsr", implies "g" "zifencei", implies "m" "zmmul",
    implies "h" "zicsr", implies "q" "d", implies "v" "d", implies "v" "zve64d", implies "v" "zvl128b",
    implies "zvfh" "zvfhmin", implies "zvfh" "zfhmin", implies "zvfhmin" "zve32f", implies "zve64d" "d",
    implies "zve64d" "zve64f", implies "zve64f" "zve32f", implies "zve64f" "zve64x",
    implies "zve64f" "zvl64b", implies "zve32f" "f", implies "zve32f" "zvl32b", implies "zve32f" "zve32x",
    implies "zve64x" "zve32x", implies "zve64x" "zvl64b", implies "zve32x" "zvl32b", implies "zve32x" "zicsr",
    implies "zvl65536b" "zvl32768b", implies "zvl32768b" "zvl16384b", implies "zvl16384b" "zvl8192b",
    implies "zvl8192b" "zvl4096b", implies "zvl4096b" "zvl2048b", implies "zvl2048b" "zvl1024b",
    implies "zvl1024b" "zvl512b", implies "zvl512b" "zvl256b", implies "zvl256b" "zvl128b",
    implies "zvl128b" "zvl64b", implies "zvl64b" "zvl32b", implies "zicntr" "zicsr", implies "zihpm" "zicsr",
    implies "zcd" "d", implies "zcf" "f", implies "zfa" "f", implies "d" "f", implies "zfh" "zfhmin",
    implies "zfhmin" "f", implies "f" "zicsr", implies "zqinx" "zdinx", implies "zdinx" "zfinx",
    implies "zhinx" "zhinxmin", implies "zhinxmin" "zfinx", implies "zfinx" "zicsr", implies "zk" "zkn",
    implies "zk" "zkr", implies "zk" "zkt", implies "zkn" "zbkb", implies "zkn" "zbkc", implies "zkn" "zbkx",
    implies "zkn" "zkne", implies "zkn" "zknd", implies "zkn" "zknh", implies "zks" "zbkb",
    implies "zks" "zbkc", implies "zks" "zbkx", implies "zks" "zksed", implies "zks" "zksh",
    implies "zvbb" "zvkb", implies "zvkn" "zvkned", implies "zvkn" "zvknha", implies "zvkn" "zvknhb",
    implies "zvkn" "zvkb", implies "zvkn" "zvkt", implies "zvkng" "zvkn", implies "zvkng" "zvkg",
    implies "zvknc" "zvkn", implies "zvknc" "zvbc", implies "zvks" "zvksed", implies "zvks" "zvksh",
    implies "zvks" "zvkb", implies "zvks" "zvkt", implies "zvksg" "zvks", implies "zvksg" "zvkg",
    implies "zvksc" "zvks", implies "zvksc" "zvbc", implies "zcf" "zca", implies "zcd" "zca",
    implies "zcb" "zca", implies "smaia" "ssaia", implies "smcntrpmf" "zicsr",
    implies "smstateen" "ssstateen", implies "smepmp" "zicsr", implies "ssaia" "zicsr",
    implies "sscofpmf" "zicsr", implies "ssstateen" "zicsr", implies "sstc" "zicsr", implies "svadu" "zicsr",
    implies "xsfvcp" "zve32x"]

end RiscvBinutils.Isa
