import FaultTriage.Table.Row

/-!
# The x64 table

Rows are searched in order and the first one that applies decides, so a specific mnemonic stands
before a general one that would take it in.
-/

set_option autoImplicit false

namespace FaultTriage.Table.X64

open Register TableRow

def arithmeticFlags : List Operand :=
  [zeroFlag, carryFlag, overflowFlag, parityFlag, signFlag, auxFlag]

def conditionFlags : List Operand := [zeroFlag, carryFlag, overflowFlag, parityFlag, signFlag]

def multiplyResult : List Operand := ["rax", "rdx", carryFlag, overflowFlag]

def argumentRegisters : List Operand := ["rcx", "rdx", "r8", "r9"]

def callClobbered : List Operand := ["rax", "rcx", "rdx", "r8", "r9", "r10", "r11"]

def rows : List TableRow := [
  exactly "nop" .noop .none,
  starting "int" .interrupt .target,
  exactly "ud2" .interrupt .none,
  exactly "hlt" .interrupt .none,
  { exactly "syscall" .interrupt .none with reads := ["rax"], passes := argumentRegisters },
  { starting "call" .branch .target with
    reads := ["rsp"], writes := callClobbered, passes := argumentRegisters },
  { starting "ret" .returning .none with reads := ["rsp"], passes := ["rax"] },
  { starting "iret" .returning .none with reads := ["rsp"] },
  starting "jmp" .branch .target,
  { exactly "jrcxz" .branch .target with reads := ["rcx"] },
  { exactly "jecxz" .branch .target with reads := ["ecx"] },
  { starting "j" .branch .target with reads := conditionFlags },
  { starting "loop" .branch .target with reads := ["rcx"], writes := ["rcx"] },
  { exactly "pushfq" .stackPush .none with reads := [flags] },
  { exactly "pushf" .stackPush .none with reads := [flags] },
  starting "push" .stackPush .target,
  { exactly "popfq" .stackPop .none with writes := [flags] },
  { exactly "popf" .stackPop .none with writes := [flags] },
  { exactly "popcnt" .calculation .move with writes := arithmeticFlags },
  starting "pop" .stackPop .writeOnly,
  { exactly "leave" .dataMove .none with reads := ["rbp"], writes := ["rsp", "rbp"] },
  starting "xchg" .dataExchange .move,
  { starting "cmpxchg" .calculation .update with reads := ["rax"], writes := ["rax", zeroFlag] },
  { starting "xadd" .calculation .update with writes := arithmeticFlags },
  { exactly "movsb" .blockDataMove .none with
    reads := ["rsi"], writes := ["rsi", "rdi"], writesThrough := ["rdi"] },
  { exactly "movsq" .blockDataMove .none with
    reads := ["rsi"], writes := ["rsi", "rdi"], writesThrough := ["rdi"] },
  { starting "stos" .blockDataMove .none with
    reads := ["rax"], writes := ["rdi"], writesThrough := ["rdi"] },
  { starting "lods" .blockDataMove .none with reads := ["rsi"], writes := ["rax", "rsi"] },
  { starting "scas" .calculation .none with reads := ["rax", "rdi"], writes := arithmeticFlags },
  { starting "cmps" .calculation .none with reads := ["rsi", "rdi"], writes := arithmeticFlags },
  { starting "cmov" .dataMove .update with reads := conditionFlags },
  starting "mov" .dataMove .move,
  starting "lea" .dataMove .move,
  { starting "cmp" .calculation .compare with writes := arithmeticFlags },
  { starting "test" .calculation .compare with writes := arithmeticFlags },
  { starting "xor" .calculation .update with
    writes := arithmeticFlags, adjustments := [.selfCancelling] },
  { starting "pxor" .calculation .update with adjustments := [.selfCancelling] },
  { starting "sub" .calculation .update with
    writes := arithmeticFlags, adjustments := [.selfCancelling] },
  { starting "sbb" .calculation .update with reads := [carryFlag], writes := arithmeticFlags },
  { starting "adc" .calculation .update with reads := [carryFlag], writes := arithmeticFlags },
  { starting "add" .calculation .update with writes := arithmeticFlags },
  { starting "and" .calculation .update with writes := arithmeticFlags },
  { starting "or" .calculation .update with writes := arithmeticFlags },
  { starting "inc" .calculation .unary with writes := arithmeticFlags },
  { starting "dec" .calculation .unary with writes := arithmeticFlags },
  { starting "neg" .calculation .unary with writes := arithmeticFlags },
  starting "not" .calculation .unary,
  starting "bswap" .calculation .unary,
  { exactly "sahf" .calculation .none with reads := ["ah"], writes := arithmeticFlags },
  { starting "sh" .calculation .update with writes := arithmeticFlags },
  { starting "sa" .calculation .update with writes := arithmeticFlags },
  { starting "ro" .calculation .update with writes := [carryFlag, overflowFlag] },
  { starting "rc" .calculation .update with
    reads := [carryFlag], writes := [carryFlag, overflowFlag] },
  { starting "imul" .calculation .update with reads := ["rax"], writes := multiplyResult },
  { starting "mul" .calculation .update with reads := ["rax"], writes := multiplyResult },
  { starting "idiv" .calculation .target with reads := ["rax", "rdx"], writes := ["rax", "rdx"] },
  { starting "div" .calculation .target with reads := ["rax", "rdx"], writes := ["rax", "rdx"] },
  { exactly "cqo" .calculation .none with reads := ["rax"], writes := ["rdx"] },
  { exactly "cdq" .calculation .none with reads := ["eax"], writes := ["edx"] },
  { exactly "cdqe" .calculation .none with reads := ["eax"], writes := ["rax"] },
  { starting "set" .calculation .writeOnly with reads := conditionFlags },
  { starting "bt" .calculation .compare with writes := [carryFlag] },
  { exactly "clc" .calculation .none with writes := [carryFlag] },
  { exactly "stc" .calculation .none with writes := [carryFlag] },
  { exactly "cmc" .calculation .none with reads := [carryFlag], writes := [carryFlag] },
  { exactly "lahf" .dataMove .none with reads := arithmeticFlags, writes := ["ah"] },
  { exactly "rdtsc" .dataMove .none with writes := ["rax", "rdx"] },
  { exactly "cpuid" .dataMove .none with reads := ["rax"], writes := ["rax", "rbx", "rcx", "rdx"] }
]

end FaultTriage.Table.X64
