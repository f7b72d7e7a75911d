import Frontier.Machine.Routine

/-!
# Files

Files stand in a tree of directories. A file is found by its path from the root, which is kept as a list of names;
links lead on to other paths.
-/

namespace Frontier

/-- The names that lead from the root to a file. -/
abbrev Path := List Bytes

/-- Files that are made by the system. -/
inductive Device where
  /-- Takes everything and has nothing. -/
  | null
  /-- Takes everything and has zeros without end. -/
  | zero
  /-- Has zeros without end and takes nothing. -/
  | full
  /-- Cannot be reached. -/
  | absent
  deriving DecidableEq, Repr, Inhabited

/-- What stands at a path. -/
inductive Node where
  | directory
  /-- A plain file, by the number of its content. -/
  | file (number : Nat)
  /-- A program, by its name. -/
  | program (name : String)
  | device (d : Device)
  | link (target : Bytes)
  /-- The file that a descriptor of the asking program stands for. -/
  | descriptor (number : Nat)
  deriving DecidableEq, Repr, Inhabited

/-- A file with its permissions. -/
structure FileEntry where
  node : Node
  mode : Nat
  deriving DecidableEq, Repr, Inhabited

/-- A tree of files. -/
structure Files where
  entries : List (Path × FileEntry) := []
  /-- What plain files hold. -/
  contents : List (Nat × Bytes) := []
  /-- The number of the next content. -/
  fresh : Nat := 1
  deriving Repr, Inhabited

namespace Files

/-- A path as a text. -/
def pathText (path : Path) : Bytes := '/' :: Bytes.join ['/'] path

/-- The names in a path. -/
def pathNames (path : Bytes) : List Bytes := Bytes.split '/' path

/-- What stands at a path from the root. -/
def at? (f : Files) (path : Path) : Option FileEntry :=
  if path.isEmpty then some ⟨.directory, 0o755⟩ else f.entries.lookup path

/-- How many names a walk may pass, those that links bring in included. -/
def walkLimit : Nat := 3000

/-- Walks from a directory along some names. The last name may be of nothing; links on the way are followed. -/
def walk (f : Files) (follows : Bool) : (fuel : Nat) → Path → List Bytes → Except Errno (Path × Option FileEntry)
  | 0, _, _ => .error .tooManyLinks
  | _ + 1, here, [] => .ok (here, f.at? here)
  | fuel + 1, here, name :: rest =>
    if name.isEmpty || name == ['.'] then f.walk follows fuel here rest
    else if name == ['.', '.'] then f.walk follows fuel here.dropLast rest
    else
      let there := here ++ [name]
      match f.at? there with
      | none => if rest.all List.isEmpty then .ok (there, none) else .error .notFound
      | some e =>
        match e.node with
        | .link target =>
          if rest.isEmpty && !follows then .ok (there, some e)
          else f.walk follows fuel (if target.head? == some '/' then [] else here) (pathNames target ++ rest)
        | .directory => f.walk follows fuel there rest
        | _ => if rest.isEmpty then .ok (there, some e) else .error .notDirectory

/-- Finds what a path leads to, seen from a directory. -/
def find (f : Files) (dir : Path) (path : Bytes) (follows : Bool) : Except Errno (Path × Option FileEntry) :=
  if path.isEmpty then .error .notFound
  else f.walk follows walkLimit (if path.head? == some '/' then [] else dir) (pathNames path)

/-- As `find`, for what must be there. -/
def locate (f : Files) (dir : Path) (path : Bytes) (follows : Bool) : Except Errno (Path × FileEntry) :=
  match f.find dir path follows with
  | .ok (there, some e) => .ok (there, e)
  | .ok (_, none) => .error .notFound
  | .error e => .error e

/-- The content with a number. -/
def content (f : Files) (number : Nat) : Bytes := (f.contents.lookup number).getD []

/-- Replaces a content. -/
def setContent (f : Files) (number : Nat) (content : Bytes) : Files :=
  { f with contents := (number, content) :: f.contents.filter (·.1 != number) }

/-- Puts something at a path. -/
def put (f : Files) (path : Path) (entry : FileEntry) : Files :=
  { f with entries := f.entries.filter (·.1 != path) ++ [(path, entry)] }

/-- Takes away what stands at a path. -/
def drop (f : Files) (path : Path) : Files := { f with entries := f.entries.filter (·.1 != path) }

/-- Puts a new plain file at a path. -/
def create (f : Files) (path : Path) (content : Bytes) : Files × Nat :=
  ({ f.put path ⟨.file f.fresh, 0o644⟩ with contents := (f.fresh, content) :: f.contents, fresh := f.fresh + 1 },
    f.fresh)

/-- The names in a directory. -/
def names (f : Files) (dir : Path) : List Bytes :=
  f.entries.filterMap fun (path, _) =>
    if path.length == dir.length + 1 && dir.isPrefixOf path then path.getLast? else none

/-- Where a file is stored: its content for a plain file, else its place in the tree. -/
def number (f : Files) (path : Path) (entry : FileEntry) : Nat :=
  match entry.node with
  | .file n => 1000000 + n
  | _ => f.entries.findIdx (·.1 == path) + 1

/-- What is known of a file of the tree. -/
def facts (f : Files) (path : Path) (entry : FileEntry) : FileFacts where
  kind := match entry.node with
    | .directory => .directory
    | .file _ | .program _ => .plain
    | .device _ | .descriptor _ => .device
    | .link _ => .link
  mode := entry.mode
  size := match entry.node with
    | .file n => (f.content n).length
    | .program _ => 40000
    | .directory => 4096
    | .link target => target.length
    | _ => 0
  number := f.number path entry

/-- Changes the tree, seen from a directory. -/
def change (f : Files) (dir : Path) : FileChange → Except Errno Files
  | .makeDirectory path => do
    let (there, e) ← f.find dir path true
    if e.isSome then throw .alreadyThere
    return f.put there ⟨.directory, 0o755⟩
  | .removeDirectory path => do
    let (there, e) ← f.locate dir path false
    if e.node != .directory then throw .notDirectory
    if !(f.names there).isEmpty then throw .notEmpty
    return f.drop there
  | .remove path => do
    let (there, e) ← f.locate dir path false
    if e.node == .directory then throw .isDirectory
    return f.drop there
  | .rename path target => do
    let (there, e) ← f.locate dir path false
    let (goal, old) ← f.find dir target false
    if e.node == .directory then
      if old.any (·.node != .directory) then throw .notDirectory
      if old.isSome && there != goal && !(f.names goal).isEmpty then throw .notEmpty
      let moved := f.entries.filterMap fun (p, e) =>
        if p == goal then none
        else if there.isPrefixOf p then some (goal ++ p.drop there.length, e)
        else some (p, e)
      return { f with entries := moved }
    else
      if old.any (·.node == .directory) then throw .isDirectory
      return (f.drop there).put goal e
  | .link target path => do
    let (there, e) ← f.find dir path false
    if e.isSome then throw .alreadyThere
    return f.put there ⟨.link target, 0o777⟩
  | .setMode path mode => do
    let (there, e) ← f.locate dir path true
    return { f with entries := f.entries.map fun (p, old) => if p == there then (p, { e with mode }) else (p, old) }

/-! ## The tree that programs find -/

/-- The directories there are. -/
def directories : List String :=
  ["boot", "dev", "dev/fd", "dev/pts", "dev/shm", "etc", "home", "media", "mnt", "opt", "proc", "proc/self",
    "proc/self/fd", "root", "run", "srv", "sys", "tmp", "usr", "usr/bin", "usr/games", "usr/include", "usr/lib",
    "usr/lib64", "usr/local", "usr/local/bin", "usr/local/sbin", "usr/local/lib", "usr/sbin", "usr/share",
    "usr/src", "var", "var/cache", "var/lib", "var/log", "var/tmp"]

/-- The links there are. -/
def links : List (String × String) :=
  [("bin", "usr/bin"), ("lib", "usr/lib"), ("lib64", "usr/lib64"), ("sbin", "usr/sbin"), ("var/run", "/run")]

/-- The devices there are. -/
def devices : List (String × Device) :=
  [("dev/full", .full), ("dev/null", .null), ("dev/ptmx", .absent), ("dev/random", .zero), ("dev/tty", .absent),
    ("dev/urandom", .zero), ("dev/zero", .zero)]

/-- The plain files there are. -/
def plainFiles : List (String × String) :=
  [("etc/passwd", "root:x:0:0:root:/root:/bin/bash\ndaemon:x:1:1:daemon:/usr/sbin:/usr/sbin/nologin\n" ++
      "nobody:x:65534:65534:nobody:/nonexistent:/usr/sbin/nologin\n"),
    ("etc/group", "root:x:0:\ndaemon:x:1:\nnogroup:x:65534:\n"), ("etc/hostname", "localhost\n"),
    ("etc/hosts", "127.0.0.1\tlocalhost\n"), ("etc/shells", "/bin/sh\n/bin/dash\n")]

/-- A path from the root as its names. -/
def rooted (path : String) : Path := Bytes.split '/' (bytesOf path)

/-- The tree with some programs in it. -/
def initial (programs : List String) : Files :=
  let fixed : List (Path × FileEntry) :=
    (directories.map fun d => (rooted d, ⟨.directory, if d == "tmp" || d == "var/tmp" then 0o1777 else 0o755⟩)) ++
    (links.map fun (name, target) => (rooted name, ⟨.link (bytesOf target), 0o777⟩)) ++
    (devices.map fun (name, d) => (rooted name, ⟨.device d, 0o666⟩)) ++
    (["stdin", "stdout", "stderr"].mapIdx fun n name => (rooted ("dev/" ++ name), ⟨.descriptor n, 0o666⟩)) ++
    ((List.range 10).flatMap fun n =>
      ["dev/fd/", "proc/self/fd/"].map fun dir => (rooted (dir ++ toString n), ⟨.descriptor n, 0o666⟩)) ++
    (programs.map fun name => (rooted ("usr/bin/" ++ name), ⟨.program name, 0o755⟩))
  plainFiles.foldl (fun f (name, content) => (f.create (rooted name) (bytesOf content)).1) { entries := fixed }

end Files
end Frontier
