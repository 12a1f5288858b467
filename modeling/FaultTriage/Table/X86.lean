import FaultTriage.Table.Row

/-!
# The x86 table

Rows are searched in order and the first one that applies decides, so a specific mnemonic stands
before a general one that would take it in.
-/

set_option autoImplicit false

namespace FaultTriage.Table.X86

open Register TableRow

def arithmeticFlags : List Operand :=
  [zeroFlag, carryFlag, overflowFlag, parityFlag, signFlag, auxFlag]

def conditionFlags : List Operand := [zeroFlag, carryFlag, overflowFlag, parityFlag, signFlag]

def multiplyResult : List Operand := ["eax", "edx", carryFlag, overflowFlag]

def callClobbered : List Operand := ["eax", "ecx", "edx"]

def rows : List TableRow := [
  exactly "nop" .noop .none,
  starting "int" .interrupt .target,
  exactly "ud2" .interrupt .none,
  exactly "hlt" .interrupt .none,
  starting "sysenter" .interrupt .none,
  { starting "call" .branch .target with
    reads := ["esp"], writes := callClobbered, passes := [stackContents] },
  { starting "ret" .returning .none with reads := ["esp"], passes := ["eax"] },
  { starting "iret" .returning .none with reads := ["esp"] },
  starting "jmp" .branch .target,
  { exactly "jecxz" .branch .target with reads := ["ecx"] },
  { exactly "jcxz" .branch .target with reads := ["cx"] },
  { starting "j" .branch .target with reads := conditionFlags },
  { starting "loop" .branch .target with reads := ["ecx"], writes := ["ecx"] },
  { exactly "pushad" .stackPush .none with
    reads := ["eax", "ecx", "edx", "ebx", "esp", "ebp", "esi", "edi"] },
  { exactly "pushfd" .stackPush .none with reads := [flags] },
  { exactly "pushf" .stackPush .none with reads := [flags] },
  starting "push" .stackPush .target,
  { exactly "popad" .stackPop .none with
    writes := ["edi", "esi", "ebp", "esp", "ebx", "edx", "ecx", "eax"] },
  { exactly "popfd" .stackPop .none with writes := [flags] },
  { exactly "popf" .stackPop .none with writes := [flags] },
  { exactly "popcnt" .calculation .move with writes := arithmeticFlags },
  starting "pop" .stackPop .writeOnly,
  { exactly "leave" .dataMove .none with reads := ["ebp"], writes := ["esp", "ebp"] },
  starting "xchg" .dataExchange .move,
  { starting "cmpxchg" .calculation .update with reads := ["eax"], writes := ["eax", zeroFlag] },
  { starting "xadd" .calculation .update with writes := arithmeticFlags },
  { exactly "movsb" .blockDataMove .none with
    reads := ["esi"], writes := ["esi", "edi"], writesThrough := ["edi"] },
  { exactly "movsw" .blockDataMove .none with
    reads := ["esi"], writes := ["esi", "edi"], writesThrough := ["edi"] },
  { exactly "movsd" .blockDataMove .none with
    reads := ["esi"], writes := ["esi", "edi"], writesThrough := ["edi"] },
  { starting "stos" .blockDataMove .none with
    reads := ["eax"], writes := ["edi"], writesThrough := ["edi"] },
  { starting "lods" .blockDataMove .none with reads := ["esi"], writes := ["eax", "esi"] },
  { starting "scas" .calculation .none with reads := ["eax", "edi"], writes := arithmeticFlags },
  { starting "cmps" .calculation .none with reads := ["esi", "edi"], writes := arithmeticFlags },
  { starting "cmov" .dataMove .update with reads := conditionFlags },
  starting "mov" .dataMove .move,
  starting "lea" .dataMove .move,
  { starting "cmp" .calculation .compare with writes := arithmeticFlags },
  { starting "test" .calculation .compare with writes := arithmeticFlags },
  { starting "xor" .calculation .update with
    writes := arithmeticFlags, adjustments := [.selfCancelling] },
  { starting "pxor" .calculation .update with adjustments := [.selfCancelling] },
  { starting "sub" .calculation .update with
    writes := arithmeticFlags, adjustments := [.selfCancelling] },
  { starting "sbb" .calculation .update with reads := [carryFlag], writes := arithmeticFlags },
  { starting "adc" .calculation .update with reads := [carryFlag], writes := arithmeticFlags },
  { starting "add" .calculation .update with writes := arithmeticFlags },
  { starting "and" .calculation .update with writes := arithmeticFlags },
  { starting "or" .calculation .update with writes := arithmeticFlags },
  { starting "inc" .calculation .unary with writes := arithmeticFlags },
  { starting "dec" .calculation .unary with writes := arithmeticFlags },
  { starting "neg" .calculation .unary with writes := arithmeticFlags },
  starting "not" .calculation .unary,
  starting "bswap" .calculation .unary,
  { exactly "sahf" .calculation .none with reads := ["ah"], writes := arithmeticFlags },
  { starting "sh" .calculation .update with writes := arithmeticFlags },
  { starting "sa" .calculation .update with writes := arithmeticFlags },
  { starting "ro" .calculation .update with writes := [carryFlag, overflowFlag] },
  { starting "rc" .calculation .update with
    reads := [carryFlag], writes := [carryFlag, overflowFlag] },
  { starting "imul" .calculation .update with reads := ["eax"], writes := multiplyResult },
  { starting "mul" .calculation .update with reads := ["eax"], writes := multiplyResult },
  { starting "idiv" .calculation .target with reads := ["eax", "edx"], writes := ["eax", "edx"] },
  { starting "div" .calculation .target with reads := ["eax", "edx"], writes := ["eax", "edx"] },
  { exactly "cdq" .calculation .none with reads := ["eax"], writes := ["edx"] },
  { exactly "cwde" .calculation .none with reads := ["ax"], writes := ["eax"] },
  { exactly "cbw" .calculation .none with reads := ["al"], writes := ["ax"] },
  { starting "set" .calculation .writeOnly with reads := conditionFlags },
  { starting "bt" .calculation .compare with writes := [carryFlag] },
  { exactly "clc" .calculation .none with writes := [carryFlag] },
  { exactly "stc" .calculation .none with writes := [carryFlag] },
  { exactly "cmc" .calculation .none with reads := [carryFlag], writes := [carryFlag] },
  { exactly "lahf" .dataMove .none with reads := arithmeticFlags, writes := ["ah"] },
  { exactly "rdtsc" .dataMove .none with writes := ["eax", "edx"] },
  { exactly "cpuid" .dataMove .none with reads := ["eax"], writes := ["eax", "ebx", "ecx", "edx"] }
]

end FaultTriage.Table.X86
