-- SUMMARY: Utilities that list, make, copy, move and remove files and directories.
import FunctionHost.Rehearsal.Host.Search
import FunctionHost.Rehearsal.Shell.Numeral
import FunctionHost.Rehearsal.Shell.Utility.Request

/-! # Files

These utilities change the files of their host, or tell about them. Where that fails for one of
their operands they complain about it, and go on with the next one. -/

namespace FunctionHost.Rehearsal.Shell.Request

/-- The last name in a path without slashes at its end. -/
def baseName (path : String) : String :=
  let names := (Host.Tree.pathNames path).filter (!·.isEmpty)
  names.getLast?.getD (if path.isEmpty then "" else "/")

/-- A path without its last name. -/
def dirName (path : String) : String :=
  let trimmed := (path.toList.reverse.dropWhile (· = '/')).dropWhile (· ≠ '/')
  let parent := (trimmed.dropWhile (· = '/')).reverse
  if !parent.isEmpty then String.ofList parent
  else if Host.Tree.isAbsolute path then "/" else "."

/-- The last names of paths, without an ending. -/
def basename (r : Request) : Answer :=
  let several := r.has 'a' || r.has 's'
  let ending := ((r.value? 's').or (if several then none else r.operands[1]?)).getD ""
  let short (path : String) : String :=
    let name := baseName path
    if !ending.isEmpty && name.endsWith ending && name ≠ ending then
      String.ofList (name.toList.take (name.length - ending.length))
    else name
  if several then r.lines (r.operands.map short)
  else if r.operands.length > 2 then r.refuse "extra operand"
  else r.lines ((r.operands.take 1).map short)

/-- The path of a place. -/
def pathOf (place : Host.Place) : String :=
  "/" ++ String.intercalate "/" place

/-! ## Making and removing -/

/-- A tree with a new directory. -/
def makeDirectory (here : Host.Place) (parents : Bool) (tree : Host.Tree) (path : String) :
    Except Host.Fault Host.Tree :=
  let trimmed := (path.toList.reverse.dropWhile (· = '/')).reverse
  match tree.open? here path with
  | .ok (_, .directory) => if parents then .ok tree else .error .present
  | .ok _ => .error .present
  | .error _ =>
    let names := Host.Tree.pathNames (String.ofList trimmed)
    let start := if Host.Tree.isAbsolute path then [] else here
    if path.isEmpty then .error .missing
    else if parents then
      let (tree, _, fault) := names.foldl (fun (tree, place, fault) name =>
        match tree.walk place [name] with
        | .ok next => (tree, next, fault)
        | .error .missing => (tree.put (place ++ [name]) .directory, place ++ [name], fault)
        | .error other => (tree, place, some other)) (tree, start, (none : Option Host.Fault))
      match fault with
      | some fault => .error fault
      | none => .ok tree
    else do
      let parent ← tree.walk start names.dropLast
      match tree.node? parent, names.getLast? with
      | some .directory, some name =>
        if Host.Tree.maxName < name.length then throw .nameTooLong
        return tree.put (parent ++ [name]) .directory
      | _, _ => throw .notDirectory

/-- A tree with something new at the end of a path. -/
def makeNode (here : Host.Place) (node : Host.Node) (tree : Host.Tree) (path : String) :
    Except Host.Fault Host.Tree := do
  match ← tree.forWriting here path with
  | (place, none) => return tree.put place node
  | _ => throw .present

/-- A tree with a file, which is empty if it is new. -/
def touchFile (here : Host.Place) (make : Bool) (tree : Host.Tree) (path : String) :
    Except Host.Fault Host.Tree :=
  match tree.open? here path with
  | .ok _ => .ok tree
  | .error .missing =>
    if !make then .ok tree
    else do
      match ← tree.forWriting here path with
      | (place, none) => return tree.put place (.file [] false)
      | _ => return tree
  | .error fault => .error fault

/-- A tree without what a path leads to, which is a directory only with `all`, or if it is empty
    with `bare`. -/
def removeEntry (here : Host.Place) (force all bare : Bool) (tree : Host.Tree) (path : String) :
    Except Host.Fault Host.Tree :=
  match tree.entry? here path with
  | .ok (place, .directory) =>
    if place.isEmpty || here.take place.length = place && (path = "." || path = "..") then
      .error .present
    else if all || bare && (tree.names place).isEmpty then .ok (tree.remove place)
    else .error .isDirectory
  | .ok (place, _) => .ok (tree.remove place)
  | .error .missing => if force then .ok tree else .error .missing
  | .error .notDirectory => if force then .ok tree else .error .notDirectory
  | .error fault => .error fault

/-- Removes files, and directories if asked for. -/
def rm (r : Request) : Answer :=
  let force := r.has 'f'
  if r.operands.isEmpty then (if force then r.answer [] 0 else r.refuse "missing operand")
  else r.changing r.operands
    (removeEntry r.here force (r.has 'r' || r.has 'R') (r.has 'd'))

/-- A tree without an empty directory, and with `parents` without those above it in the path. -/
def removeDirectory (here : Host.Place) (parents : Bool) (tree : Host.Tree) (path : String) :
    Except Host.Fault Host.Tree := do
  let place ← tree.directory? here path
  if !(tree.names place).isEmpty || place.isEmpty then throw .present
  let tree := tree.remove place
  if !parents then return tree
  let names := (Host.Tree.pathNames path).filter (!·.isEmpty)
  let above := (List.range (names.length - 1)).map fun i => place.take (place.length - 1 - i)
  above.foldlM (fun (tree : Host.Tree) place =>
    if place.isEmpty || !(tree.names place).isEmpty then throw .present
    else return tree.remove place) tree

/-! ## Modes -/

/-- Whether a text is a mode: a number in base eight, or letters with signs between them. -/
def isMode (text : String) : Bool :=
  let isOctal := !text.isEmpty && text.length ≤ 4 && text.toList.all (Numeral.isDigitIn 8)
  let isClause (clause : String) : Bool :=
    let rest := clause.toList.dropWhile fun c => "ugoa".contains c
    !rest.isEmpty && (rest.head?).any (fun c => "+-=".contains c)
      && rest.all fun c => "+-=rwxXstugo".contains c
  isOctal || (text.splitOn ",").all isClause

/-- Whether a file may be executed after its mode was changed. -/
def executableAfter (mode : String) (before : Bool) : Bool :=
  if mode.toList.all Char.isDigit then mode.toList.any fun c => "1357".contains c
  else (mode.splitOn ",").foldl (fun now clause =>
    let rest := clause.toList.dropWhile fun c => "ugoa".contains c
    let named := rest.contains 'x' || rest.contains 'X' && now
    match rest.head? with
    | some '+' => now || named
    | some '-' => if named then false else now
    | _ => named) before

/-- A tree in which files may be executed, or no longer. -/
def setMode (here : Host.Place) (mode : String) (tree : Host.Tree) (path : String) :
    Except Host.Fault Host.Tree := do
  match ← tree.open? here path with
  | (place, .file content before) =>
    return tree.put place (.file content (executableAfter mode before))
  | _ => return tree

/-- Changes the modes of files. A mode that takes something away looks like an option. -/
def chmod (r : Request) : Answer :=
  let taken := r.given.filterMap fun (switch, _) =>
    if switch.name.isEmpty then switch.letter else none
  let like := r.valueNamed? "reference"
  let (mode, paths) :=
    if !taken.isEmpty then ("-" ++ String.ofList taken, r.operands)
    else if like.isSome then ("u+r", r.operands)
    else (r.operands.headD "", r.operands.tail)
  if !isMode mode then r.refuse ("invalid mode: '" ++ mode ++ "'")
  else if paths.isEmpty then r.refuse "missing operand"
  else r.changing paths (setMode r.here mode)

/-- The users or groups of a host, with their numbers. -/
def known (r : Request) (path : String) : List (String × List String) :=
  (linesOf ((r.content path).toOption.getD [])).filterMap fun line =>
    match (String.ofList line).splitOn ":" with
    | name :: fields => some (name, fields)
    | [] => none

/-- Whether a name is one of those in a file of users or groups, or a number. -/
def isKnown (r : Request) (path name : String) : Bool :=
  name.isEmpty || name.toList.all Char.isDigit || ((r.known path).lookup name).isSome

/-- Changes the owners of files, which leaves no trace here. -/
def chown (r : Request) : Answer :=
  let fine (owner : String) : Bool :=
    if r.name = "chgrp" then r.isKnown "/etc/group" owner
    else
      match owner.splitOn ":" with
      | [user] => r.isKnown "/etc/passwd" user
      | [user, group] => r.isKnown "/etc/passwd" user && r.isKnown "/etc/group" group
      | _ => false
  let named := (r.valueNamed? "reference").isNone
  let paths := if named then r.operands.tail else r.operands
  if named && !fine (r.operands.headD "") then r.refuse "invalid user or group"
  else if paths.isEmpty then r.refuse "missing operand"
  else r.changing paths fun tree path => (tree.find r.here path).map fun _ => tree

/-! ## Copying and moving -/

/-- How something gets to another place. -/
inductive Transfer where
  | copying (all : Bool)
  | moving
  | linking (symbolic : Bool)
  | installing
  deriving Repr, DecidableEq

/-- A tree in which something is at the end of another path too, or only there. -/
def transferred (here : Host.Place) (how : Transfer) (force : Bool) (tree : Host.Tree)
    (source target : String) : Except Host.Fault Host.Tree := do
  let goal (after : Host.Tree) : Except Host.Fault (Host.Place × Option Host.Node) := do
    match after.entry? here target with
    | .ok (place, node) => return (place, some node)
    | .error .missing =>
      let trimmed := (target.toList.reverse.dropWhile (· = '/')).reverse
      after.forWriting here (String.ofList trimmed)
    | .error fault => throw fault
  match how with
  | .linking true =>
    match ← goal tree with
    | (_, some .directory) => throw .present
    | (place, some _) =>
      if !force then throw .present
      return tree.put place (.link (← reached place) source)
    | (place, none) => return tree.put place (.link (← reached place) source)
  | _ =>
    let (start, node) ← if how = .moving then tree.entry? here source else tree.open? here source
    let (place, old) ← goal tree
    if place = start then throw .present
    match how, node, old with
    | .linking _, .directory, _ => throw .denied
    | .linking _, _, some _ =>
      if !force then throw .present
      return tree.put place node
    | .linking _, _, none => return tree.put place node
    | .installing, .directory, _ => throw .isDirectory
    | .installing, .file content _, _ => return tree.put place (.file content true)
    | .copying false, .directory, _ => throw .isDirectory
    | _, .directory, some .directory =>
      if start.isPrefixOf place then throw .present
      if how = .moving && !(tree.names place).isEmpty then throw .present
      let copied := tree.copy start place
      return if how = .moving then copied.remove start else copied
    | _, .directory, some _ => throw .notDirectory
    | _, .directory, none =>
      if start.isPrefixOf place then throw .present
      let copied := tree.copy start place
      return if how = .moving then copied.remove start else copied
    | _, _, some .directory => throw .isDirectory
    | .moving, _, _ => return (tree.remove start).put place node
    | _, _, some .void => return tree
    | _, _, _ => return tree.put place node
where
  /-- The place that a link at a place leads to. -/
  reached (place : Host.Place) : Except Host.Fault Host.Place := do
    if source.isEmpty then throw .missing
    let start := if Host.Tree.isAbsolute source then [] else place.dropLast
    match tree.walk start (Host.Tree.pathNames source) with
    | .ok found => return found
    | .error _ => return start ++ (Host.Tree.pathNames source).filter (!·.isEmpty)

/-- Puts files to another place: several into a directory, or one to the end of a path. -/
def transfer (r : Request) (how : Transfer) : Answer :=
  let force := r.has 'f'
  let isDirectory (path : String) : Bool := (r.tree.directory? r.here path).isOk
  let move (target : String) (tree : Host.Tree) (source : String) : Except Host.Fault Host.Tree :=
    if force && (how matches .copying _) && !tree.leads r.here source then .error .missing
    else transferred r.here how force tree source target
  let into (directory : String) (sources : List String) : Answer :=
    if !isDirectory directory then r.refuse ("target '" ++ directory ++ "': No such directory")
    else r.changing sources fun tree source =>
      move (directory ++ "/" ++ baseName source) tree source
  match r.value? 't', r.operands with
  | some directory, sources =>
    if sources.isEmpty then r.refuse "missing file operand" else into directory sources
  | none, [] => r.refuse "missing file operand"
  | none, [source] =>
    if how matches .linking _ then into "." [source]
    else r.refuse ("missing destination file operand after '" ++ source ++ "'")
  | none, [source, target] =>
    if isDirectory target && !r.has 'T' && !(r.has 'n' && (how matches .linking _)) then
      into target [source]
    else if r.has 'n' && r.tree.leads r.here target then r.answer [] 0
    else r.changing [source] (move target)
  | none, sources => into ((sources.getLast?).getD "") sources.dropLast

/-- Copies files and lets them be executed, or makes directories. -/
def install (r : Request) : Answer :=
  if !r.has 'd' then r.transfer .installing
  else if r.operands.isEmpty then r.refuse "missing file operand"
  else r.changing r.operands (makeDirectory r.here true)

/-- A file or directory with a name of its own. -/
def mktemp (r : Request) : Answer :=
  let given := r.operands.head?
  let template := given.getD "tmp.XXXXXXXXXX"
  let marks := (template.toList.reverse.takeWhile (· = 'X')).length
  let number := toString r.tree.nodes.length
  let name := String.ofList (template.toList.take (template.length - marks))
    ++ String.ofList (number.toList.leftpad marks 'x')
  let inTemporary := given.isNone || r.has 'p' || r.has 't'
  let path := if inTemporary then (r.value? 'p').getD "/tmp" ++ "/" ++ name else name
  if marks < 3 then r.refuse ("too few X's in template '" ++ template ++ "'")
  else
    match r.tree.forWriting r.here path with
    | .ok (place, none) =>
      let node := if r.has 'd' then .directory else .file [] false
      { r.lines [path] with tree := if r.has 'u' then r.tree else r.tree.put place node }
    | _ => r.refuse ("failed to create file via template '" ++ template ++ "'")

/-- Cuts files to a size, or fills them with zero bytes up to it. -/
def truncate (r : Request) : Answer :=
  let wanted := match r.valueNamed? "reference" with
    | some path => (r.content path).toOption.map fun cs => (none, cs.length)
    | none => (r.value? 's').bind fun text =>
      let sign := (text.toList.head?).filter fun c => "+-<>/%".contains c
      ((String.ofList (if sign.isSome then text.toList.drop 1 else text.toList)).toNat?).map
        fun n => (sign, n)
  match wanted with
  | none => r.refuse "you must specify a size"
  | some (sign, n) =>
    r.changing r.operands fun tree path => do
      let (place, node) ← match tree.forWriting r.here path with
        | .ok found => pure found
        | .error fault => throw fault
      let (old, executable) : List Char × Bool := match node with
        | some (.file content executable) => (content, executable)
        | _ => ([], false)
      let size := match sign with
        | some '+' => old.length + n
        | some '-' => old.length - n
        | some '<' => min old.length n
        | some '>' => max old.length n
        | _ => n
      if node.isNone && r.has 'c' then return tree
      let padded := old.take size ++ List.replicate (size - old.length) '\x00'
      return tree.put place (.file padded executable)

/-- Copies the input to the output in blocks, or from and to files. -/
def dd (r : Request) : Answer :=
  let pairs := r.words.map fun word =>
    (String.ofList (word.toList.takeWhile (· ≠ '=')),
      String.ofList ((word.toList.dropWhile (· ≠ '=')).drop 1), word.contains '=')
  let names := ["if", "of", "bs", "ibs", "obs", "cbs", "count", "skip", "seek", "conv", "iflag",
    "oflag", "status"]
  if r.words = ["--help"] || r.words = ["--version"] then r.lines [r.name]
  else if pairs.any fun (name, _, hasValue) => !hasValue || !names.contains name then
    r.refuse "unrecognized operand"
  else
    let value? (name : String) : Option String := pairs.lookup name |>.map Prod.fst
    let number (name : String) (other : Nat) : Nat := ((value? name).bind String.toNat?).getD other
    let block := number "bs" (number "ibs" 512)
    match (value? "if").elim (.ok r.input) r.content with
    | .error fault => r.refuse ("failed to open: " ++ fault.name)
    | .ok text =>
      let start := text.drop (number "skip" 0 * block)
      let part := if (value? "count").isSome then start.take (number "count" 0 * block) else start
      match value? "of" with
      | none => r.answer part 0
      | some path => r.changing [path] fun tree path => do
        match ← tree.forWriting r.here path with
        | (_, some .void) => return tree
        | (place, _) => return tree.put place (.file part false)

/-- Compresses files, or tells that they are not compressed. -/
def compressed (r : Request) : Answer :=
  let expands := r.name ≠ "gzip" || r.has 'd'
  let statuses := r.operands.map fun path =>
    match r.content path with
    | .error .isDirectory => 2
    | .error _ => 1
    | .ok _ => if !expands then 0 else if r.name = "zcat" || path = "-" then 1 else 2
  let worst := if statuses.contains 1 then 1 else statuses.foldl max 0
  let added := r.operands.filter fun path => !expands && !r.has 'c' && (r.content path).isOk
  let answer := r.changing added fun tree path => do
    let (place, node) ← tree.open? r.here path
    let (target, _) ← tree.forWriting r.here (path ++ ".gz")
    return (if r.has 'k' then tree else tree.remove place).put target node
  { answer with status := if r.operands.isEmpty && expands then 1 else worst }

/-! ## Looking -/

/-- The names in directories, or the paths that lead elsewhere. -/
def ls (r : Request) : Answer :=
  let paths := if r.operands.isEmpty then ["."] else r.operands
  let found := paths.map fun path => (path, r.tree.open? r.here path)
  let complaints := found.filterMap fun (path, node) =>
    match node with
    | .error fault => some (r.name ++ ": cannot access '" ++ path ++ "': " ++ fault.name)
    | .ok _ => none
  let long := r.has 'l' || r.name = "vdir" || r.has 'n' || r.has 'o' || r.has 'g'
  let shown (name : String) : Bool := name.front ≠ '.' || r.has 'a' || r.has 'A' || r.has 'f'
  let ordered (names : List String) : List String := if r.has 'r' then names.reverse else names
  let line (name : String) : String := if long then "-rw-r--r-- 1 root root 0 " ++ name else name
  let others := found.filterMap fun (path, node) =>
    match node with
    | .ok (_, .directory) => if r.has 'd' then some path else none
    | .ok _ => some path
    | .error _ => none
  let directories := found.filterMap fun (path, node) =>
    match node with
    | .ok (place, .directory) => if r.has 'd' then none else some (path, place)
    | _ => none
  let listed := directories.zipIdx.flatMap fun ((path, place), i) =>
    let all := (if r.has 'a' || r.has 'f' then [".", ".."] else [])
      ++ (r.tree.names place).filter shown
    let heading := if paths.length > 1 then
        (if i = 0 && others.isEmpty then [] else [""]) ++ [path ++ ":"]
      else []
    heading ++ (if long then ["total 0"] else []) ++ (ordered all).map line
  { r.lines ((ordered others).map line ++ listed) with
    complaints
    status := if complaints.isEmpty then 0 else 2 }

/-- What is known about paths, in a format if there is one. -/
def stat (r : Request) : Answer :=
  let kind (node : Host.Node) : String :=
    match node with
    | .directory => "directory"
    | .file [] _ => "regular empty file"
    | .void => "character special file"
    | .link _ _ => "symbolic link"
    | _ => "regular file"
  let size (node : Host.Node) : Nat :=
    match node with
    | .file content _ => content.length
    | .directory => 4096
    | .program _ => 40000
    | _ => 0
  let mode (node : Host.Node) : String :=
    match node with
    | .directory => "755"
    | .file _ true => "755"
    | .program _ => "755"
    | .link _ _ => "777"
    | .void => "666"
    | _ => "644"
  let fill (format path : String) (node : Host.Node) : String :=
    (((((format.replace "%s" (toString (size node))).replace "%n" path).replace "%F"
      (kind node)).replace "%a" (mode node)).replace "%U" "root").replace "%u" "0"
  let look (path : String) : Except Host.Fault Host.Node :=
    if path = "-" then .ok .void
    else (if r.has 'L' then r.tree.open? r.here path else r.tree.entry? r.here path).map Prod.snd
  let output := r.operands.filterMap fun path =>
    (look path).toOption.map fun node =>
      match r.value? 'c' with
      | some format => fill format path node
      | none => "  File: " ++ path
  let complaints := r.operands.filterMap fun path =>
    match look path with
    | .error fault => some (r.complaintAbout path fault)
    | .ok _ => none
  r.withComplaints (output.flatMap fun line => line.toList ++ ['\n']) complaints

/-- Where links lead, or where paths do. -/
def readlink (r : Request) : Answer :=
  let follows := r.has 'f' || r.has 'e' || r.has 'm'
  let found := r.operands.map fun path =>
    if follows then
      match r.tree.find r.here path with
      | .ok place => some (pathOf place)
      | .error _ =>
        match r.has 'e', r.tree.forWriting r.here path with
        | false, .ok (place, _) => some (pathOf place)
        | _, _ => if r.has 'm' then some path else none
    else
      match r.tree.entry? r.here path with
      | .ok (_, .link _ text) => some text
      | _ => none
  let texts := found.filterMap id
  { r.lines texts with status := if texts.length = found.length then 0 else 1 }

/-- Where paths lead. -/
def realpath (r : Request) : Answer :=
  let found := r.operands.map fun path =>
    match r.tree.find r.here path, r.tree.forWriting r.here path with
    | .ok place, _ => (path, some (pathOf place))
    | .error _, .ok (place, _) => (path, if r.has 'e' then none else some (pathOf place))
    | .error _, .error _ => (path, if r.has 'm' then some path else none)
  let complaints := found.filterMap fun (path, place) =>
    if place.isNone then some (r.complaintAbout path .missing) else none
  r.withComplaints ((found.filterMap Prod.snd).flatMap fun line => line.toList ++ ['\n']) complaints

/-- Whether paths could lead somewhere. -/
def pathchk (r : Request) : Answer :=
  let complaints := r.operands.filterMap fun path =>
    match path.isEmpty, r.tree.find r.here path with
    | true, _ => some (r.complaintAbout path .missing)
    | false, .error .missing => none
    | false, .error fault => some (r.complaintAbout path fault)
    | false, .ok _ => none
  r.withComplaints [] complaints

/-- The programs that commands name. -/
def which (r : Request) : Answer :=
  let directories := ((r.values.lookup "PATH").map Host.Tree.directoriesIn).getD []
  let found := r.operands.filterMap fun name =>
    ((r.tree.search r.here directories name).toOption).map Prod.fst
  { r.lines found with
    status := if found.length = r.operands.length && !r.operands.isEmpty then 0 else 1 }

end FunctionHost.Rehearsal.Shell.Request
