import TreeShell.Asset.Page

/-!
# Help pages

A general page, and a page for every topic.
-/

set_option autoImplicit false

namespace TreeShell.Asset

/-- The page that is shown when no topic is asked for. -/
def generalHelp : String :=
  page [
    "# MemSH help",
    "",
    "MemSH is a small shell over a persisted virtual filesystem.",
    "",
    "## Files and folders",
    "- `ls [-l] [-a] [path]` - list a folder",
    "- `cd [path]` - change folder (default `/`)",
    "- `pwd` - print the current folder",
    "- `mkdir <name...>` / `rmdir <name...>` - create or remove empty folders",
    "- `touch <path...>` / `cat <path...>` / `rm <path...>` - files",
    "- `mv <src> <dst>` / `copy <src> <dst>` - move and copy",
    "- `find` and `grep` - search",
    "",
    "## Shell",
    "- `alias`, `unalias`, `history`, `config`, `date`, `delay`, `cls`, `exit`",
    "- `init` - create the base folder layout and install these pages",
    "",
    "## Programs and scripts",
    "- `./name.py` runs a Python program stored in the filesystem",
    "- `./name.msh` runs a command script (see `help scripts`)",
    "- Programs in a folder on PATH (default `/bin`) run by bare name",
    "",
    "Use `help <command>` for details. Hit Tab to complete commands and paths."]

/-- The page on `ls`. -/
def helpOnLs : String :=
  page [
    "# ls",
    "",
    "`ls [-l] [-a] [path]`",
    "",
    "List folder contents, folders first with a trailing `/`.",
    "",
    "- `-l` long format: type (`d` or `-`) and size (characters, or children for folders)",
    "- `-a` include names starting with `.`"]

/-- The page on `cd`. -/
def helpOnCd : String :=
  page [
    "# cd",
    "",
    "`cd [path]`",
    "",
    "Change the current folder. With no argument, go to `/`. `..` at the root stays at " ++
      "the root."]

/-- The page on `pwd`. -/
def helpOnPwd : String :=
  page [
    "# pwd",
    "",
    "Print the current folder."]

/-- The page on `mkdir`. -/
def helpOnMkdir : String :=
  page [
    "# mkdir",
    "",
    "`mkdir <name...>`",
    "",
    "Create empty folders in the current folder. Names may not contain `/`; parent " ++
      "folders are never created."]

/-- The page on `rmdir`. -/
def helpOnRmdir : String :=
  page [
    "# rmdir",
    "",
    "`rmdir <name...>`",
    "",
    "Remove empty folders."]

/-- The page on `touch`. -/
def helpOnTouch : String :=
  page [
    "# touch",
    "",
    "`touch <path...>`",
    "",
    "Create empty files. Existing files are left unchanged."]

/-- The page on `cat`. -/
def helpOnCat : String :=
  page [
    "# cat",
    "",
    "`cat <path...>`",
    "",
    "Print file contents."]

/-- The page on `rm`. -/
def helpOnRm : String :=
  page [
    "# rm",
    "",
    "`rm <path...>`",
    "",
    "Delete files. Use `rmdir` for folders."]

/-- The page on `mv`. -/
def helpOnMv : String :=
  page [
    "# mv",
    "",
    "`mv <src> <dst>`",
    "",
    "Move or rename a file or folder. If `<dst>` is an existing folder, `<src>` moves " ++
      "into it."]

/-- The page on `copy`. -/
def helpOnCopy : String :=
  page [
    "# copy",
    "",
    "`copy <src> <dst>`",
    "",
    "Copy a file. If `<dst>` is an existing folder, the copy keeps the source name."]

/-- The page on `find`. -/
def helpOnFind : String :=
  page [
    "# find",
    "",
    "`find [path] [-name <glob>] [-type f|d] [-maxdepth N] [-ls]`",
    "",
    "Walk a folder tree and print matching paths in sorted order."]

/-- The page on `grep`. -/
def helpOnGrep : String :=
  page [
    "# grep",
    "",
    "`grep [-r] [-i] [-n] <pattern|/regex/> [path...]`",
    "",
    "Print lines that contain a pattern. `/.../` is a regular expression.",
    "",
    "- `-r` search folders recursively",
    "- `-i` ignore case",
    "- `-n` show line numbers"]

/-- The page on `config`. -/
def helpOnConfig : String :=
  page [
    "# config",
    "",
    "`config [show|get <key>|set <key> <value>|reset]`",
    "",
    "Show or change display settings stored in `/sys/config.json`.",
    "",
    "Keys: prompt_user, prompt_host, prompt_user_color, prompt_path_color, show_welcome_logo"]

/-- The page on `alias`. -/
def helpOnAlias : String :=
  page [
    "# alias",
    "",
    "`alias` lists aliases. `alias name=expansion` defines one.",
    "",
    "The expansion's first word replaces the command; its other words come before the " ++
      "original arguments. Aliases are stored in `/sys/env.json`."]

/-- The page on `unalias`. -/
def helpOnUnalias : String :=
  page [
    "# unalias",
    "",
    "`unalias <name...>`",
    "",
    "Remove aliases."]

/-- The page on `history`. -/
def helpOnHistory : String :=
  page [
    "# history",
    "",
    "Print the command history stored in `/sys/history.json`."]

/-- The page on `init`. -/
def helpOnInit : String :=
  page [
    "# init",
    "",
    "`init [-f|--force] [--check] [--update]`",
    "",
    "Create `/bin`, `/home/user`, `/tmp`, `/sys` and `/etc/help` and install the bundled " ++
      "files.",
    "",
    "- `-f` re-initialize a filesystem that already has content",
    "- `--check` report missing or outdated bundled files",
    "- `--update` rewrite missing or outdated bundled files without resetting"]

/-- The page on `date`. -/
def helpOnDate : String :=
  page [
    "# date",
    "",
    "Print the current date and time."]

/-- The page on `delay`. -/
def helpOnDelay : String :=
  page [
    "# delay",
    "",
    "`delay <ms>`",
    "",
    "Wait for a number of milliseconds (at most one hour)."]

/-- The page on `cls`. -/
def helpOnCls : String :=
  page [
    "# cls",
    "",
    "Clear the screen."]

/-- The page on `exit`. -/
def helpOnExit : String :=
  page [
    "# exit",
    "",
    "Leave the shell. Ctrl+D on an empty line does the same."]

/-- The page on programs and scripts. -/
def helpOnScripts : String :=
  page [
    "# scripts",
    "",
    "## Programs (`.py`)",
    "A program may define `main(shell, command, args)`. Otherwise its body runs once " ++
      "with `shell`, `command`, `args`, `argv` and `vfs` defined. Returning `False` or " ++
      "raising marks the run as failed.",
    "",
    "## Command scripts (`.msh`)",
    "One command per line. Blank lines and lines starting with `#` or `//` are skipped. " ++
      "Aliases and PATH lookup are not applied. The script stops at the first failing line " ++
      "and reports its number."]

/-- The topics with their pages, in the order in which they are installed. -/
def helpPages : List (String × String) :=
  [("ls", helpOnLs),
    ("cd", helpOnCd),
    ("pwd", helpOnPwd),
    ("mkdir", helpOnMkdir),
    ("rmdir", helpOnRmdir),
    ("touch", helpOnTouch),
    ("cat", helpOnCat),
    ("rm", helpOnRm),
    ("mv", helpOnMv),
    ("copy", helpOnCopy),
    ("find", helpOnFind),
    ("grep", helpOnGrep),
    ("config", helpOnConfig),
    ("alias", helpOnAlias),
    ("unalias", helpOnUnalias),
    ("history", helpOnHistory),
    ("init", helpOnInit),
    ("date", helpOnDate),
    ("delay", helpOnDelay),
    ("cls", helpOnCls),
    ("exit", helpOnExit),
    ("scripts", helpOnScripts)]

end TreeShell.Asset
