import TreeShell.Command.Basic
import TreeShell.Text.LowerCase

namespace TreeShell.Command

structure HelpSection where
  heading : String
  rows : List (String × String)

def helpSections : List HelpSection := [
  ⟨"File Operations:", [
    ("ls [options]", "List directory contents"),
    ("cd <directory>", "Change directory"),
    ("pwd", "Print working directory"),
    ("touch <file>", "Create an empty file"),
    ("mkdir <directory>", "Create directory"),
    ("rm [-rf] <file/dir>", "Remove files or directories"),
    ("cp [-r] <src> <dst>", "Copy files or directories"),
    ("mv <src> <dst>", "Move/rename files or directories"),
    ("cat <file>", "Display file contents"),
    ("find <path> -name <p>", "Search for files"),
    ("grep <pattern> <file>", "Search for a pattern in files")]⟩,
  ⟨"Git Commands:", [
    ("git status", "Show git status"),
    ("git add <file>", "Stage changes"),
    ("git commit -m <msg>", "Commit changes"),
    ("git push", "Push changes"),
    ("git log", "Show commit history"),
    ("git branch", "List branches"),
    ("git checkout <branch>", "Switch branches")]⟩,
  ⟨"npm Commands:", [
    ("npm start", "Start development server"),
    ("npm test", "Run tests"),
    ("npm build", "Build for production"),
    ("npm install [pkg]", "Install dependencies"),
    ("node [script]", "Run a Node.js script")]⟩,
  ⟨"GitHub CLI:", [
    ("gh pr list", "List pull requests"),
    ("gh pr create", "Create pull request"),
    ("gh issue", "List issues")]⟩,
  ⟨"System Commands:", [
    ("echo <text>", "Display a line of text"),
    ("date", "Show the current date and time"),
    ("ps", "Report process status"),
    ("whoami", "Print current user"),
    ("man <command>", "Display manual page"),
    ("history", "Show command history"),
    ("clear", "Clear the terminal screen"),
    ("help", "Show this help")]⟩]

def helpRow (usage description : String) : String :=
  "  " ++ Text.alignLeft 23 usage ++ description

def HelpSection.text (part : HelpSection) : String :=
  Text.join "\n" (part.heading :: part.rows.map fun (usage, description) =>
    helpRow usage description)

def helpText : String :=
  Text.join "\n\n" ("Available commands:" :: helpSections.map HelpSection.text)

def listedCommands : List String :=
  helpSections.flatMap fun part => part.rows.map fun (usage, _) =>
    String.ofList (usage.toList.takeWhile (· ≠ ' '))

def extraRow (ctx : Context) (name : String) : Except Fault String :=
  (ctx.summary name).map fun summary => Text.trimEnd (helpRow name summary)

def helpTopic (ctx : Context) (topic : String) : Reply :=
  let name := Text.lower topic
  match ctx.commands.get? name with
  | none => .text s!"help: no help topics match '{topic}'"
  | some summary =>
    let shown := if summary = "" then "No description available" else summary
    .text s!"{name}: {shown}"

def help : Handler := .asking fun ctx _ =>
  match ctx.args with
  | topic :: _ => .ok (helpTopic ctx topic)
  | [] =>
    let extra := ctx.commands.keys.filter fun name => !listedCommands.contains name
    if extra.isEmpty then .ok (.text helpText)
    else (extra.mapM (extraRow ctx)).map fun rows =>
      .text (helpText ++ "\n\nOther Commands:\n" ++ Text.join "\n" rows)

structure ManualPage where
  name : String
  summary : String
  synopsis : String
  description : String

def ManualPage.text (page : ManualPage) : String :=
  let header := page.name.toUpper ++ "(1)"
  Text.alignLeft 25 header ++ "User Commands" ++ Text.alignRight 20 header ++
  s!"\n\nNAME\n       {page.name} - {page.summary}" ++
  s!"\n\nSYNOPSIS\n       {page.synopsis}" ++
  s!"\n\nDESCRIPTION\n       {page.description}"

def manualPages : List ManualPage := [
  ⟨"ls",
    "list directory contents",
    "ls [OPTION]... [FILE]...",
    "List information about the FILEs (the current directory by default)."⟩,
  ⟨"cd",
    "change directory",
    "cd [directory]",
    "Change the current directory to the specified directory."⟩,
  ⟨"cat",
    "concatenate files and print on the standard output",
    "cat [OPTION]... [FILE]...",
    "Concatenate FILE(s) to standard output."⟩,
  ⟨"mkdir",
    "make directories",
    "mkdir [OPTION]... DIRECTORY...",
    "Create the DIRECTORY(ies), if they do not already exist."⟩,
  ⟨"touch",
    "change file timestamps",
    "touch [OPTION]... FILE...",
    "Update the access and modification times of each FILE to the current time."⟩,
  ⟨"rm",
    "remove files or directories",
    "rm [OPTION]... [FILE]...",
    "Remove (unlink) the FILE(s)."⟩,
  ⟨"cp",
    "copy files and directories",
    "cp [OPTION]... SOURCE DEST",
    "Copy SOURCE to DEST, or multiple SOURCE(s) to DIRECTORY."⟩,
  ⟨"mv",
    "move (rename) files",
    "mv [OPTION]... SOURCE DEST",
    "Rename SOURCE to DEST, or move SOURCE(s) to DIRECTORY."⟩,
  ⟨"find",
    "search for files in a directory hierarchy",
    "find [path...] [expression]",
    "Search for files in a directory hierarchy."⟩,
  ⟨"grep",
    "print lines that match patterns",
    "grep [OPTION...] PATTERNS [FILE...]",
    "Search for PATTERNS in each FILE."⟩,
  ⟨"echo",
    "display a line of text",
    "echo [SHORT-OPTION]... [STRING]...",
    "Echo the STRING(s) to standard output."⟩,
  ⟨"pwd",
    "print name of current/working directory",
    "pwd [OPTION]...",
    "Print the full filename of the current working directory."⟩]

def man : Handler := .telling fun ctx =>
  match ctx.args with
  | [] => .text "What manual page do you want?"
  | topic :: _ =>
    match manualPages.find? (·.name = topic) with
    | some page => .text page.text
    | none => .text s!"No manual entry for {topic}"

end TreeShell.Command
