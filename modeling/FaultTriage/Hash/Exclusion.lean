import FaultTriage.Hash.Glob

/-!
# Excluded symbols

Debugger, verifier and heap routines appear on the stacks of many unrelated crashes.  Frames whose
symbol matches an exclusion pattern do not contribute to a stack hash.
-/

set_option autoImplicit false

namespace FaultTriage

/-- Patterns that are excluded besides the built-in ones. -/
structure ExclusionList where
  extra : List String

namespace ExclusionList

def builtIn : List String := [
  "apvrf!*", "apvrf", "ntdll*!dbgbreakpoint", "ntdll*!dbguiremotebreakin",
  "ntdll*!_eh4_callfilterfunc", "ntdll*!_except_handler4", "ntdll*!executehandler2",
  "ntdll*!executehandler", "ntdll*!kifastsystemcallret", "ntdll*!kiuserexceptiondispatcher",
  "ntdll*!rtl*exception*", "ntdll*!rtl*heap*", "ntdll*!rtl*failure*",
  "ntdll*!zwwaitformultipleobjects", "msvcrt!free", "msvcrt!*alloc", "kernel32!werp*",
  "kernel32!unhandledexceptionfilter", "kernel32!*raiseexception*",
  "kernel32!waitformultipleobjects*", "kernel32!heapfree", "kernel32!kebugcheck*", "clrstub*",
  "vrfcore!*", "vrfcore", "vfbasics!*", "vfbasics", "verifier!*", "verifier", "mscorwks"]

def excludes (list : ExclusionList) (symbol : String) : Bool :=
  builtIn.any (Glob.isMatch · symbol) || list.extra.any (Glob.isMatch · symbol)

end ExclusionList

end FaultTriage
