import TreeShell.Command.Basic
import TreeShell.Glob

namespace TreeShell.Command

/-- The directory that `ls` lists. A path that does not exist lists as empty. -/
def listTarget (ctx : Context) : Path :=
  match ctx.operands with
  | [] => ctx.cwd
  | word :: _ => if word = Path.here then ctx.cwd else ctx.resolve word

def folderSize : Nat := 4096

def longLine (mode : String) (size : Nat) (stamp name : String) : String :=
  s!"{mode} 1 user group {Text.alignRight 6 (toString size)} {stamp} {name}"

def longListing (listing : Listing) (stamp : String) (sizes : List Nat) : List String :=
  listing.folders.map (fun name => longLine "drwxr-xr-x" folderSize stamp (name ++ "/")) ++
  List.zipWith (fun name size => longLine "-rw-r--r--" size stamp name) listing.files sizes

def shortListing (listing : Listing) : String :=
  Text.join "  " (listing.folders.map (· ++ "/") ++ listing.files)

def ls : Handler := fun ctx world =>
  let listing := world.tree.children (listTarget ctx)
  if ctx.hasFlag ["-l"] then
    let (sizes, source) := world.sizes.sizes listing.files.length
    (.ok (.lines (longListing listing world.clock.now.stamp sizes)),
      { world with clock := world.clock.later, sizes := source })
  else (.ok (.text (shortListing listing)), world)

/-- `cd` moves to a directory that is there. The arguments for the directory above and for the
    working directory itself are taken without a look at the tree. -/
def cd : Handler := .asking fun ctx tree =>
  match ctx.args with
  | [] => .ok { newDirectory := some "" }
  | word :: _ =>
    let target := Path.resolveMove word ctx.cwd
    if word = Path.above ∨ word = Path.here ∨ tree.hasDirectory target then
      .ok { newDirectory := some target }
    else .ok { output := s!"cd: {word}: No such file or directory", newDirectory := some ctx.cwd }

def pwd : Handler := .telling fun ctx => .text ("/" ++ ctx.cwd)

def catOne (ctx : Context) (tree : Tree) (word : String) : Except Fault String :=
  let path := ctx.resolve word
  if tree.hasFile path then tree.read path
  else if tree.hasDirectory path then .ok s!"cat: {word}: Is a directory"
  else .ok s!"cat: {word}: No such file or directory"

def cat : Handler := .asking fun ctx tree =>
  if ctx.args.isEmpty then .ok (.text "cat: missing file operand")
  else (ctx.args.mapM (catOne ctx tree)).map .lines

structure FindRequest where
  place : String
  pattern : Option String
  deriving DecidableEq, Repr

/-- Reads the arguments of `find`. The word after the last name flag is the pattern. -/
def FindRequest.scan (request : FindRequest) : List String → FindRequest
  | [] => request
  | [_] => request
  | word :: next :: rest =>
    if word = "-name" then scan { request with pattern := some next } rest
    else scan request (next :: rest)

/-- The place is the first argument, unless that is a flag. -/
def FindRequest.ofArgs (args : List String) : FindRequest :=
  match args with
  | [] => ⟨Path.here, none⟩
  | word :: _ => scan ⟨if word.toList.head? = some '-' then Path.here else word, none⟩ args

/-- `find` matches the children of one directory; it does not look further down. -/
def find : Handler := .asking fun ctx tree =>
  let request := FindRequest.ofArgs ctx.args
  match request.pattern with
  | none => .ok (.text "find: missing arguments")
  | some pattern =>
    let place := if request.place = Path.here then ctx.cwd else ctx.resolve request.place
    let found := (tree.children place).names.filter (Glob.isMatch (Glob.unquote pattern))
    .ok (.lines (found.map (Path.join place)))

def matchingLines (pattern word content : String) : List String :=
  ((Text.split '\n' content).zipIdx 1).filterMap fun (line, number) =>
    if Text.occursIn pattern line then some s!"{word}:{number}: {line}" else none

def grepOne (ctx : Context) (tree : Tree) (pattern word : String) : Except Fault (List String) :=
  let path := ctx.resolve word
  if tree.hasFile path then (tree.read path).map (matchingLines pattern word)
  else .ok [s!"grep: {word}: No such file or directory"]

def grep : Handler := .asking fun ctx tree =>
  match ctx.args with
  | pattern :: word :: rest =>
    ((word :: rest).mapM (grepOne ctx tree pattern)).map fun found => .lines found.flatten
  | _ => .ok (.text "grep: missing pattern")

end TreeShell.Command
