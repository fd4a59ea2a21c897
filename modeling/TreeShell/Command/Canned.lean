import TreeShell.Command.Basic

namespace TreeShell.Command

abbrev Answers := List (String × String)

def Answers.get? (answers : Answers) (subcommand : String) : Option String :=
  OrderedMap.find? subcommand answers

def npmAnswers : Answers := [
  ("start", Text.join "\n" [
    "Starting development server...",
    "",
    "Compiled successfully!",
    "",
    "You can now view the app in the browser.",
    "",
    "  Local:            http://localhost:3000",
    "  On Your Network:  http://192.168.0.45:3000"]),
  ("test", Text.join "\n" [
    "PASS  src/__tests__/app.test.js",
    "PASS  src/__tests__/components.test.js",
    "",
    "Test Suites: 2 passed, 2 total",
    "Tests:       7 passed, 7 total",
    "Snapshots:   0 total",
    "Time:        1.234s"]),
  ("build", Text.join "\n" [
    "Creating an optimized production build...",
    "Compiled successfully.",
    "",
    "File sizes after gzip:",
    "",
    "  142.32 KB  build/static/js/main.a1b2c3d4.js",
    "  23.45 KB   build/static/css/main.a1b2c3d4.css"])]

def npm : Handler := .telling fun ctx =>
  match ctx.args with
  | [] => .text "npm: missing command"
  | "install" :: package :: _ =>
    .text s!"+ {package}@1.2.3\nadded 42 packages from 23 contributors in 2.5s"
  | "install" :: [] => .text "added 1344 packages in 30s"
  | subcommand :: _ =>
    .text ((npmAnswers.get? subcommand).getD s!"Unknown npm command: {subcommand}")

def nodeBanner : String :=
  "Welcome to Node.js v18.16.0.\nType \".help\" for more information."

def node : Handler := .asking fun ctx tree =>
  match ctx.args with
  | [] => .ok (.text nodeBanner)
  | script :: _ =>
    if tree.hasFile (ctx.resolve script) then
      .ok (.text s!"Simulated execution of Node.js script: {script}")
    else .ok (.text s!"Error: Cannot find module '{script}'")

def pullRequestAnswers : Answers := [
  ("list", Text.join "\n" [
    "Showing 2 of 2 open pull requests in username/repo",
    "",
    "#42  Update documentation  user1  [feature/docs]  1d",
    "#41  Fix terminal component  user2  [bugfix/terminal]  2d"]),
  ("create", Text.join "\n" [
    "Creating pull request for feature-branch into main in username/repo",
    "",
    "Pull request created: https://github.com/username/repo/pull/43"])]

def issueAnswer : String := Text.join "\n" [
  "Showing 3 of 3 open issues in username/repo",
  "",
  "#39  Improve performance  user1  2d",
  "#38  Add test coverage  user2  3d",
  "#37  Update dependencies  user3  1w"]

def gh : Handler := .telling fun ctx =>
  match ctx.args with
  | [] => .text "gh: missing command"
  | "pr" :: [] => .text "gh pr: missing subcommand"
  | "pr" :: subcommand :: _ =>
    .text ((pullRequestAnswers.get? subcommand).getD s!"Unknown gh pr command: {subcommand}")
  | "issue" :: _ => .text issueAnswer
  | subcommand :: _ => .text s!"Unknown gh command: {subcommand}"

def gitAnswers : Answers := [
  ("status", Text.join "\n" [
    "On branch main",
    "Your branch is up to date with 'origin/main'.",
    "",
    "Changes not staged for commit:",
    "  (use \"git add <file>...\" to update what will be committed)",
    "  (use \"git restore <file>...\" to discard changes in working directory)",
    "        modified:   src/components/Terminal.js",
    "        modified:   src/components/FileViewer.js",
    "",
    "no changes added to commit (use \"git add\" and/or \"git commit -a\")"]),
  ("add", ""),
  ("commit", Text.join "\n" [
    "[main a1b2c3d] Update terminal and file viewer components",
    " 2 files changed, 150 insertions(+), 20 deletions(-)"]),
  ("push", Text.join "\n" [
    "Enumerating objects: 7, done.",
    "Counting objects: 100% (7/7), done.",
    "Delta compression using up to 8 threads",
    "Compressing objects: 100% (4/4), done.",
    "Writing objects: 100% (4/4), 1.23 KiB | 1.23 MiB/s, done.",
    "Total 4 (delta 3), reused 0 (delta 0), pack-reused 0",
    "remote: Resolving deltas: 100% (3/3), completed with 3 local objects.",
    "To github.com:username/repo.git",
    "   a1b2c3d..e4f5g6h  main -> main"]),
  ("log", Text.join "\n" [
    "commit a1b2c3d4e5f6g7h8i9j0k1l2m3n4o5p6q7r8s9t",
    "Author: User <user@example.com>",
    "Date:   Mon Mar 1 12:34:56 2024 -0800",
    "",
    "    Update terminal and file viewer components",
    "",
    "commit b2c3d4e5f6g7h8i9j0k1l2m3n4o5p6q7r8s9t0",
    "Author: User <user@example.com>",
    "Date:   Sun Feb 29 12:34:56 2024 -0800",
    "",
    "    Initial commit"]),
  ("branch", Text.join "\n" [
    "* main",
    "  feature/file-viewer",
    "  feature/terminal"])]

def git : Handler := .telling fun ctx =>
  match ctx.args with
  | [] => .text "git: missing command"
  | "checkout" :: rest => .text s!"Switched to branch '{rest.headD mainBranch}'"
  | subcommand :: _ =>
    .text ((gitAnswers.get? subcommand).getD s!"Unknown git command: {subcommand}")
where
  mainBranch : String := "main"

end TreeShell.Command
