import TreeShell.Asset.Samples

/-!
# Hosted programs

A program is a file with its text. The shell has no interpreter for the language of such texts: it
knows a number of programs by their exact text. Any other text is a program it cannot host.
-/

set_option autoImplicit false

namespace TreeShell

/-- The programs the shell can host. -/
inductive HostedProgram where
  /-- Does nothing. -/
  | nothing
  /-- Greets its first argument, or the world. -/
  | hello
  /-- Prints its arguments with commas between them. -/
  | joined
  /-- Prints how it was called and the current folder. -/
  | scope
  /-- Changes its list of arguments, which is its own. -/
  | copies
  /-- Prints a word; what it calls its main part is no function. -/
  | data
  /-- Answers that it failed. -/
  | answersFalse
  /-- Answers zero, which is no failure. -/
  | answersZero
  /-- Prints a word and breaks off. -/
  | breaks
  /-- Breaks off with its arguments for a reason. -/
  | refusesArguments
  /-- Prints the file named by its first argument. -/
  | showsFile
  /-- Gives up in the way scripts do. -/
  | givesUp
  /-- Prints words, from a main part that is awaited. -/
  | later
  /-- Answers that it failed, from a main part that is awaited. -/
  | laterFalse
  /-- Reads a key and prints the line of it. -/
  | showsKey
  /-- Asks for a name and greets it. -/
  | asks
  /-- Makes a file in new folders, and goes to one of them. -/
  | makes
  /-- Has its arguments dispatched as a line, and prints whether that went well. -/
  | dispatches
  /-- Asks to leave. -/
  | quits
  /-- Waits, and then waits for less than no time. -/
  | naps
  /-- The bundled program: greets a name it is given or asks for, and waits for a key. -/
  | sample
deriving DecidableEq, Repr

namespace HostedProgram

/-- The text of a program. -/
def source : HostedProgram → String
  | nothing => ""
  | hello =>
    Asset.page [
      "",
      "def main(shell, command, args):",
      "    shell.print(f\"Hello \x7bargs[0] if args else 'world'\x7d from \x7bcommand\x7d\")"]
  | joined => Asset.page ["shell.print('argv=' + ','.join(argv))"]
  | scope => Asset.page ["shell.print('|'.join([command, str(len(args)), vfs.get_cwd_path()]))"]
  | copies =>
    Asset.page [
      "args.append('x')",
      "def main(shell, command, args):",
      "    args.append('y')",
      "    shell.print(len(args))"]
  | data =>
    Asset.page [
      "main = 5",
      "shell.print('data')"]
  | answersFalse =>
    Asset.page [
      "def main(shell, command, args):",
      "    return False"]
  | answersZero =>
    Asset.page [
      "def main(shell, command, args):",
      "    return 0"]
  | breaks =>
    Asset.page [
      "shell.print('before')",
      "raise RuntimeError('kaboom')"]
  | refusesArguments =>
    Asset.page [
      "def main(shell, command, args):",
      "    raise ValueError('bad ' + ' '.join(args))"]
  | showsFile =>
    Asset.page [
      "def main(shell, command, args):",
      "    vfs_path = args[0]",
      "    shell.print(shell.vfs.read_file(vfs_path))"]
  | givesUp =>
    Asset.page [
      "from memsh.exceptions import ScriptFailureError",
      "raise ScriptFailureError('own failure', path='/own')"]
  | later =>
    Asset.page [
      "async def main(shell, command, args):",
      "    shell.print('async done')"]
  | laterFalse =>
    Asset.page [
      "async def main(shell, command, args):",
      "    return False"]
  | showsKey =>
    Asset.page [
      "async def main(shell, command, args):",
      "    key = await shell.read_key_async()",
      "    shell.print('none' if key is None else key.data)"]
  | asks =>
    Asset.page [
      "def main(shell, command, args):",
      "    shell.print('hi ' + shell.input('Name: '))"]
  | makes =>
    Asset.page [
      "vfs.ensure_dir_path('/made/by')",
      "vfs.write_file('/made/by/program.txt', command)",
      "vfs.change_directory('/made')"]
  | dispatches =>
    Asset.page [
      "def main(shell, command, args):",
      "    shell.print(shell.dispatcher.dispatch(' '.join(args)).ok)"]
  | quits => Asset.page ["raise SystemExit(3)"]
  | naps =>
    Asset.page [
      "shell.sleep(1.5)",
      "shell.sleep(-2)"]
  | sample => Asset.sampleProgram

/-- All programs the shell can host. -/
def all : List HostedProgram :=
  [nothing, hello, joined, scope, copies, data, answersFalse, answersZero, breaks, refusesArguments,
    showsFile, givesUp, later, laterFalse, showsKey, asks, makes, dispatches, quits, naps, sample]

/-- The program with a text. -/
def ofSource? (text : String) : Option HostedProgram :=
  all.find? (·.source == text)

/-- The list leaves none out. -/
theorem mem_all (program : HostedProgram) : program ∈ all := by
  cases program <;> decide

end HostedProgram

end TreeShell
