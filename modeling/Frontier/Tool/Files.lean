import Frontier.Tool.Basic

/-!
# Tools for files
-/

namespace Frontier.Tool

/-! ## Paths -/

/-- A path without slashes at its end. -/
def withoutSlashes (path : Bytes) : Bytes :=
  let text := (path.reverse.dropWhile (· == '/')).reverse
  if text.isEmpty && !path.isEmpty then ['/'] else text

/-- The last name of a path. -/
def lastName (path : Bytes) : Bytes :=
  let text := withoutSlashes path
  if text == ['/'] then text else (Bytes.split '/' text).getLast?.getD []

/-- The path before the last name. -/
def parentPath (path : Bytes) : Bytes :=
  let text := withoutSlashes path
  if text == ['/'] then text
  else if text.contains '/' then
    let head := (text.reverse.dropWhile (· != '/')).reverse
    withoutSlashes head
  else ['.']

/-- Prints the last names of paths, an ending taken away. -/
def basename (i : Invocation) : Plan Nat := do
  let forms : List OptionForm := [{ letter := 'a' }, { letter := 'z' }, { letter := 's', takes := .value }]
  let (given, args) ← i.options forms 1 false
  let (names, ending) := match value? given 's' with
    | some ending => (args, ending)
    | none => if has given 'a' then (args, []) else (args.take 1, args[1]?.getD [])
  match args with
  | [] => i.misused (bytesOf "missing operand") 1
  | _ :: _ :: extra :: _ =>
    if !has given 'a' && !has given 's' then i.misused (bytesOf "extra operand " ++ quotedName extra) 1
  | _ => pure ()
  for path in names do
    let name := lastName path
    let cut := if !ending.isEmpty && name != ending && ending.isSuffixOf name then name.take (name.length - ending.length) else name
    i.print (cut ++ [if has given 'z' then '\x00' else '\n'])
  return 0

/-- Prints paths without their last names. -/
def dirname (i : Invocation) : Plan Nat := do
  let (_, args) ← i.options [{ letter := 'z' }] 1 false
  if args.isEmpty then i.misused (bytesOf "missing operand") 1
  for path in args do i.print (parentPath path ++ ['\n'])
  return 0

/-- The path that a link leads to. -/
def readlink (i : Invocation) : Plan Nat := do
  let (given, args) ← i.options (switches "femnqsvz") 1 true
  let mut status := 0
  for path in args do
    match ← Plan.ask (.readLink path) with
    | .ok target => i.print (target ++ if has given 'n' then [] else ['\n'])
    | .error _ => status := 1
  return status

/-! ## Listing -/

namespace Ls

/-- The letters of a mode. -/
def modeText (facts : FileFacts) : Bytes :=
  let kind := match facts.kind with
    | .directory => 'd'
    | .link => 'l'
    | .pipe => 'p'
    | .device => 'c'
    | .plain => '-'
  let part (n : Nat) : Bytes :=
    [if n / 4 % 2 == 1 then 'r' else '-', if n / 2 % 2 == 1 then 'w' else '-', if n % 2 == 1 then 'x' else '-']
  let last := part facts.mode
  let last := if facts.mode / 512 % 2 == 1 then last.take 2 ++ [if facts.mode % 2 == 1 then 't' else 'T'] else last
  kind :: part (facts.mode / 64) ++ part (facts.mode / 8) ++ last

/-- A line of a long list. -/
def longLine (facts : FileFacts) (name : Bytes) (target : Option Bytes) : Bytes :=
  modeText facts ++ bytesOf " 1 root root " ++ Bytes.ofNat facts.size ++ bytesOf " Jan  1 00:00 " ++ name ++
    (match target with
    | some target => bytesOf " -> " ++ target
    | none => [])

end Ls

/-- Lists directories. -/
def ls (i : Invocation) : Plan Nat := do
  let (given, args) ← i.options (switches "1aAdlFprRtSUhinCx" ++ [{ letter := 'a', long := "all" }]) 2 true
  let put (p : Printer) (dir name : Bytes) : Plan Printer := do
    let path := if dir.isEmpty then name else dir ++ '/' :: name
    let facts ← Plan.ask (.facts path false)
    let mark := match has given 'F' || has given 'p', facts with
      | true, .ok facts => if facts.kind == .directory then ['/'] else []
      | _, _ => []
    match has given 'l', facts with
    | true, .ok facts =>
      let target ← if facts.kind == .link then Plan.ask (.readLink path) else pure (.error .invalid)
      p.put i (Ls.longLine facts (name ++ mark) target.toOption ++ ['\n'])
    | _, _ => p.put i (name ++ mark ++ ['\n'])
  let order (names : List Bytes) : List Bytes :=
    let sorted := names.mergeSort Bytes.le
    if has given 'r' then sorted.reverse else sorted
  let paths := order (if args.isEmpty then [['.']] else args)
  let mut status := 0
  let mut plain : List Bytes := []
  let mut dirs : List Bytes := []
  for path in paths do
    match ← Plan.ask (.facts path (!has given 'l')) with
    | .error e =>
      i.complain (bytesOf "cannot access " ++ quotedName path ++ bytesOf ": " ++ e.message)
      status := 2
    | .ok facts =>
      if facts.kind == .directory && !has given 'd' then dirs := dirs ++ [path] else plain := plain ++ [path]
  let mut p : Printer := {}
  for path in plain do p ← put p [] path
  let mut isFirst := plain.isEmpty
  for dir in dirs do
    if 1 < args.length then
      p ← p.put i ((if isFirst then [] else ['\n']) ++ dir ++ bytesOf ":\n")
    isFirst := false
    match ← Plan.ask (.entries dir) with
    | .error e =>
      i.complain (bytesOf "cannot open directory " ++ quotedName dir ++ bytesOf ": " ++ e.message)
      status := 2
    | .ok names =>
      let all := if has given 'a' then [['.'], ['.', '.']] ++ names
        else if has given 'A' then names else names.filter fun name => name.head? != some '.'
      if has given 'l' then p ← p.put i (bytesOf "total " ++ Bytes.ofNat (4 * all.length) ++ ['\n'])
      for name in order all do p ← put p dir name
  let _ ← p.flush i
  return status

/-! ## Changing the tree -/

/-- Makes directories. -/
def mkdir (i : Invocation) : Plan Nat := do
  let forms : List OptionForm := [{ letter := 'p', long := "parents" }, { letter := 'v' }, { letter := 'm', takes := .value }]
  let (given, args) ← i.options forms 1 true
  if args.isEmpty then i.misused (bytesOf "missing operand") 1
  let mut status := 0
  for path in args do
    let steps := if has given 'p' then
        let names := Bytes.split '/' path
        (List.range names.length).filterMap fun n =>
          let head := Bytes.join ['/'] (names.take (n + 1))
          if (names[n]?.getD []).isEmpty then none else some head
      else [path]
    let mut failed := false
    for step in steps do
      if !failed then
        match ← Plan.ask (.change (.makeDirectory step)) with
        | .ok () => pure ()
        | .error e =>
          let isThere ← match ← Plan.ask (.facts step true) with
            | .ok facts => pure (facts.kind == .directory)
            | .error _ => pure false
          if !(has given 'p' && isThere) then
            i.complain (bytesOf "cannot create directory " ++ quotedName path ++ bytesOf ": " ++ e.message)
            status := 1
            failed := true
  return status

/-- Removes directories that are empty. -/
def rmdir (i : Invocation) : Plan Nat := do
  let (_, args) ← i.options (switches "pv") 1 true
  if args.isEmpty then i.misused (bytesOf "missing operand") 1
  let mut status := 0
  for path in args do
    match ← Plan.ask (.change (.removeDirectory path)) with
    | .ok () => pure ()
    | .error e =>
      i.complain (bytesOf "failed to remove " ++ quotedName path ++ bytesOf ": " ++ e.message)
      status := 1
  return status

/-- Removes a file, or a directory with all that is in it; tells whether that succeeded. Every step of `depth` goes into
a directory. -/
def removeTree (i : Invocation) : (depth : Nat) → Bytes → Plan Bool
  | 0, _ => return false
  | depth + 1, path => do
    let isDirectory ← match ← Plan.ask (.facts path false) with
      | .ok facts => pure (facts.kind == .directory)
      | .error _ => pure false
    if isDirectory then
      match ← Plan.ask (.entries path) with
      | .ok names => for name in names do let _ ← removeTree i depth (path ++ '/' :: name)
      | .error _ => pure ()
    match ← Plan.ask (.change (if isDirectory then .removeDirectory path else .remove path)) with
    | .ok () => return true
    | .error e =>
      i.complain (bytesOf "cannot remove " ++ quotedName path ++ bytesOf ": " ++ e.message)
      return false

/-- Removes files. -/
def rm (i : Invocation) : Plan Nat := do
  let forms : List OptionForm := switches "rRfidv" ++ [{ letter := 'r', long := "recursive" }, { letter := 'f', long := "force" }]
  let (given, args) ← i.options forms 1 true
  if args.isEmpty && !has given 'f' then i.misused (bytesOf "missing operand") 1
  let mut status := 0
  for path in args do
    match ← Plan.ask (.facts path false) with
    | .error e =>
      if !has given 'f' then
        i.complain (bytesOf "cannot remove " ++ quotedName path ++ bytesOf ": " ++ e.message)
        status := 1
    | .ok facts =>
      if facts.kind == .directory && !has given 'r' && !has given 'R' then
        i.complain (bytesOf "cannot remove " ++ quotedName path ++ bytesOf ": Is a directory")
        status := 1
      else if !(← removeTree i 200 path) then status := 1
  return status

/-- Makes files that are not there. -/
def touch (i : Invocation) : Plan Nat := do
  let (given, args) ← i.options (switches "acmf" ++ [{ letter := 'd', takes := .value }, { letter := 't', takes := .value }, { letter := 'r', takes := .value }]) 1 true
  if args.isEmpty then i.misused (bytesOf "missing file operand") 1
  let mut status := 0
  for path in args do
    match ← Plan.ask (.facts path true) with
    | .ok _ => pure ()
    | .error e =>
      if !(has given 'c' && e == .notFound) then
        match ← Plan.ask (.openFile path { writes := true, creates := true }) with
        | .ok d => closeInput d
        | .error e =>
          i.complain (bytesOf "cannot touch " ++ quotedName path ++ bytesOf ": " ++ e.message)
          status := 1
  return status

/-- Where a file goes that is copied or moved: into a directory, or to a name. -/
def goal (target name : Bytes) : Plan Bytes := do
  match ← Plan.ask (.facts target true) with
  | .ok facts => return if facts.kind == .directory then target ++ '/' :: lastName name else target
  | .error _ => return target

/-- Copies a file. -/
def copyFile (i : Invocation) (source target : Bytes) : Plan Bool := do
  match ← Plan.ask (.openFile source { reads := true }) with
  | .error e =>
    i.complain (bytesOf "cannot stat " ++ quotedName source ++ bytesOf ": " ++ e.message)
    return false
  | .ok d =>
    let content ← readAll d
    closeInput d
    match content with
    | .error .isDirectory =>
      i.complain (bytesOf "-r not specified; omitting directory " ++ quotedName source)
      return false
    | .error e =>
      i.complain (bytesOf "error reading " ++ quotedName source ++ bytesOf ": " ++ e.message)
      return false
    | .ok text =>
      match ← Plan.ask (.openFile target { writes := true, creates := true, truncates := true }) with
      | .error e =>
        i.complain (bytesOf "cannot create regular file " ++ quotedName target ++ bytesOf ": " ++ e.message)
        return false
      | .ok d =>
        let _ ← writeAll d text
        closeInput d
        return true

/-- The files and the goal among the arguments of a tool that copies or moves. -/
def filesAndGoal (i : Invocation) (args : List Bytes) : Plan (List Bytes × Bytes) := do
  match args.reverse with
  | [] => i.misused (bytesOf "missing file operand") 1
  | [one] => i.misused (bytesOf "missing destination file operand after " ++ quotedName one) 1
  | target :: files => return (files.reverse, target)

/-- Copies files. -/
def cp (i : Invocation) : Plan Nat := do
  let (_, args) ← i.options (switches "adfipPrRv") 1 true
  let (files, target) ← filesAndGoal i args
  let mut status := 0
  for file in files do
    if !(← copyFile i file (← goal target file)) then status := 1
  return status

/-- Moves files. -/
def mv (i : Invocation) : Plan Nat := do
  let (_, args) ← i.options (switches "finuv") 1 true
  let (files, target) ← filesAndGoal i args
  let mut status := 0
  for file in files do
    match ← Plan.ask (.change (.rename file (← goal target file))) with
    | .ok () => pure ()
    | .error e =>
      if e == .notFound then i.complain (bytesOf "cannot stat " ++ quotedName file ++ bytesOf ": " ++ e.message)
      else i.complain (bytesOf "cannot move " ++ quotedName file ++ bytesOf " to " ++ quotedName target ++ bytesOf ": " ++ e.message)
      status := 1
  return status

/-- Makes links. -/
def ln (i : Invocation) : Plan Nat := do
  let (given, args) ← i.options (switches "sfnvr") 1 true
  let (files, target) ← filesAndGoal i args
  let mut status := 0
  for file in files do
    let path ← goal target file
    if has given 'f' then
      let _ ← Plan.ask (.change (.remove path))
    match ← Plan.ask (.change (.link file path)) with
    | .ok () => pure ()
    | .error e =>
      i.complain (bytesOf "failed to create symbolic link " ++ quotedName path ++ bytesOf ": " ++ e.message)
      status := 1
  return status

/-- Changes the permissions of files; they are given as a number, or as letters. -/
def chmod (i : Invocation) : Plan Nat := do
  let isMode (arg : Bytes) : Bool := match arg with
    | '-' :: c :: _ => ['r', 'w', 'x'].contains c
    | _ => false
  let args := i.args.filter fun arg => arg != bytesOf "--" && (isMode arg || arg.head? != some '-')
  match args with
  | [] => i.misused (bytesOf "missing operand") 1
  | mode :: files =>
    let mut status := 0
    for file in files do
      match ← Plan.ask (.facts file true) with
      | .error e =>
        i.complain (bytesOf "cannot access " ++ quotedName file ++ bytesOf ": " ++ e.message)
        status := 1
      | .ok facts =>
        let new : Option Nat :=
          if mode.all fun c => '0' ≤ c && c ≤ '7' then some (Bytes.readDigits 8 0 mode).1
          else
            (Bytes.split ',' mode).foldlM (fun old part =>
              let who := part.takeWhile fun c => ['u', 'g', 'o', 'a'].contains c
              let places := if who.isEmpty || who.contains 'a' then 0o111
                else (if who.contains 'u' then 0o100 else 0) + (if who.contains 'g' then 0o10 else 0) + (if who.contains 'o' then 1 else 0)
              match part.drop who.length with
              | sign :: letters =>
                let bits := letters.foldl (fun n c => n ||| (if c == 'r' then 4 else if c == 'w' then 2 else if c == 'x' then 1 else 0)) 0
                let value := bits * places
                if sign == '+' then some (old ||| value)
                else if sign == '-' then some (old - (old &&& value))
                else if sign == '=' then some ((old - (old &&& (7 * places))) ||| value)
                else none
              | [] => none) (facts.mode % 0o10000)
        match new with
        | none =>
          i.complain (bytesOf "invalid mode: " ++ quotedName mode)
          Plan.exit 1
        | some new =>
          match ← Plan.ask (.change (.setMode file new)) with
          | .ok () => pure ()
          | .error e =>
            i.complain (bytesOf "changing permissions of " ++ quotedName file ++ bytesOf ": " ++ e.message)
            status := 1
    return status

/-- Makes a file, or a directory, with a new name, and prints it. -/
def mktemp (i : Invocation) : Plan Nat := do
  let (given, args) ← i.options (switches "dqut" ++ [{ letter := 'p', takes := .value }]) 1 true
  let (self, _) ← Plan.ask .identity
  let letters := "abcdefghijklmnopqrstuvwxyzABCDEFGHIJKLMNOPQRSTUVWXYZ0123456789".toList
  let template := args.headD (bytesOf "/tmp/tmp.XXXXXXXXXX")
  let xs := (template.reverse.takeWhile (· == 'X')).length
  if xs < 3 then
    i.complain (bytesOf "too few X's in template " ++ quotedName template)
    return 1
  let name (n : Nat) : Bytes :=
    template.take (template.length - xs) ++ (List.range xs).map fun k => letters[(self * 7919 + n * 31 + k * 17) % 62]?.getD 'a'
  Plan.loop 0 fun n => do
    let path := name n
    match ← Plan.ask (.facts path false) with
    | .ok _ => return .inl (n + 1)
    | .error _ =>
      let made ← if has given 'd' then Plan.ask (.change (.makeDirectory path)) else do
        match ← Plan.ask (.openFile path { writes := true, creates := true }) with
        | .ok d => do
          closeInput d
          pure (.ok ())
        | .error e => pure (.error e)
      match made with
      | .ok () =>
        i.print (path ++ ['\n'])
        return .inr 0
      | .error e =>
        i.complain (bytesOf "failed to create file via template " ++ quotedName template ++ bytesOf ": " ++ e.message)
        return .inr 1

end Frontier.Tool
