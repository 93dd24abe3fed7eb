import TreeShell.Asset.Page

/-!
# The bundled program and the bundled script
-/

set_option autoImplicit false

namespace TreeShell.Asset

/-- The program that greets the user and waits for a key. -/
def sampleProgram : String :=
  page [
    "\"\"\"",
    "sample.py - Example MemSH program",
    "",
    "Run:",
    "    cd /bin",
    "    ./sample.py",
    "    ./sample.py Alice",
    "    sample Alice        # /bin is on PATH",
    "",
    "This demonstrates the recommended convention:",
    "    def main(shell, command, args): ...",
    "",
    "shell.input() reads a line; shell.read_key(timeout=...) reads one key press",
    "and returns None when the timeout runs out. An async main should await",
    "shell.read_key_async() instead.",
    "\"\"\"",
    "",
    "",
    "def main(shell, command, args):",
    "    # Use a CLI arg if provided, otherwise prompt interactively",
    "    name = args[0] if args else shell.input(\"Name: \")",
    "    shell.print(f\"Hello \x7bname\x7d!\")",
    "    shell.print(f\"(Tip) This program was invoked as: \x7bcommand\x7d\")",
    "",
    "    shell.print(\"Press any key to finish...\")",
    "    key = shell.read_key(timeout=10)",
    "    if key is None:",
    "        shell.print(\"(no key pressed)\")",
    "    else:",
    "        shell.print(f\"You pressed: \x7bgetattr(key.key, 'value', key.key)\x7d\")"]

/-- The script that makes a folder with a file in it. -/
def demoScript : String :=
  page [
    "# demo.msh - one command per line, stops at the first failing line",
    "// comments start with # or //",
    "mkdir demo",
    "cd demo",
    "touch notes.txt",
    "ls -l",
    "cd .."]

end TreeShell.Asset
