import TreeShell.Text.Affix

/-!
# Short flags

Flags are single letters after a dash, and several may follow one dash. A dash alone is an operand,
and after two dashes everything is. Reading stops at the first letter that is no flag of the
command.
-/

set_option autoImplicit false

namespace TreeShell

/-- The arguments of a command, read: the flags, each once; the operands; and the first letter that
is no flag of the command, at which reading stopped. -/
structure ShortFlags where
  flags : List Char
  operands : List String
  unknown? : Option Char
deriving DecidableEq, Repr

namespace ShortFlags

/-- The flags with the letters of one argument, up to one that is not known. -/
def take (known : List Char) (read : ShortFlags) : List Char → ShortFlags
  | [] => read
  | c :: rest =>
    if known.contains c then take known { read with flags := read.flags.insert c } rest
    else { read with unknown? := some c }

/-- The arguments from some place on, after what was read before it. -/
def readFrom (known : List Char) (read : ShortFlags) : List String → ShortFlags
  | [] => read
  | arg :: rest =>
    match arg.toList with
    | ['-', '-'] => { read with operands := read.operands ++ rest }
    | '-' :: c :: letters =>
      let read := take known read (c :: letters)
      if read.unknown?.isSome then read else readFrom known read rest
    | _ => readFrom known { read with operands := read.operands ++ [arg] } rest

/-- The arguments of a command with the given flags. -/
def read (known : String) (args : List String) : ShortFlags :=
  readFrom known.toList ⟨[], [], none⟩ args

/-- Whether a flag was given. -/
def has (read : ShortFlags) (flag : Char) : Bool :=
  read.flags.contains flag

end ShortFlags

end TreeShell
