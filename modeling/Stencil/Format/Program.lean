import Stencil.IoError

/-
  Programs that read an input and write an output, and how they end.
-/

namespace Stencil

inductive ExitStatus where
  | exited (code : Nat)
  | killed (signal : Nat)
  deriving DecidableEq, Repr

namespace ExitStatus

/-- The signals by number. -/
def signals : List (Nat × String) :=
  [(1, "HUP"), (2, "INT"), (3, "QUIT"), (4, "ILL"), (5, "TRAP"), (6, "ABRT"), (7, "BUS"),
   (8, "FPE"), (9, "KILL"), (10, "USR1"), (11, "SEGV"), (12, "USR2"), (13, "PIPE"),
   (14, "ALRM"), (15, "TERM"), (16, "STKFLT"), (17, "CHLD"), (18, "CONT"), (19, "STOP"),
   (20, "TSTP"), (21, "TTIN"), (22, "TTOU"), (23, "URG"), (24, "XCPU"), (25, "XFSZ"),
   (26, "VTALRM"), (27, "PROF"), (28, "WINCH"), (29, "IO"), (30, "PWR"), (31, "SYS")]

/-- The signals that do not end a process: it stops or goes on, or nothing happens. -/
def harmless : List Nat := [0, 17, 18, 19, 20, 21, 22, 23, 28]

def display : ExitStatus → String
  | exited code => "exit status: " ++ toString code
  | killed signal =>
    "signal: " ++ toString signal ++
      (match signals.lookup signal with
        | some name => " (SIG" ++ name ++ ")"
        | none => "")

end ExitStatus

/-- What a program leaves behind. -/
structure Outcome where
  status : ExitStatus
  out : ByteArray
  err : ByteArray
  /-- How many bytes of the input were not read. -/
  unread : Nat

/-- Runs a program with arguments on an input, if it can be started. -/
abbrev Programs := String → List String → ByteArray → Except IoError Outcome

/-- How much input a program may leave unread without the writer's noticing. -/
def pipeCapacity : Nat := 65536

end Stencil
