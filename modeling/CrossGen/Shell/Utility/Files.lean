import CrossGen.Host.Storage
import CrossGen.Shell.Utility.Basic

/-!
# Utilities that change files

Programs that make, remove, copy and move what stands in directories. What is wrong with one operand
does not keep the others from being dealt with.
-/

namespace CrossGen.Shell

/-- The location that a path names, where a link at its end stands for itself. -/
def entryAt (files : FileSystem) (here : Location) (p : Path) : Except IoError Location :=
  match p.names.getLast? with
  | none => files.locate here p
  | some name =>
    if p.endsInSeparator || name = "." || name = ".." then files.locate here p
    else
      match files.placeAbove here p with
      | .error e => .error e
      | .ok (.vacancy ..) => .error .notFound
      | .ok (.node dir) =>
        if files.node? dir != some .directory then .error .notDirectory
        else if longestName < name.utf8ByteSize then .error .nameTooLong
        else if (files.node? (dir.child name)).isSome then .ok (dir.child name)
        else .error .notFound

/-- The location at which something new is to stand, in a directory that is there. -/
def vacancyAt (files : FileSystem) (here : Location) (p : Path) : Except IoError Location :=
  match files.placeAbove here p, p.names.getLast? with
  | .error e, _ => .error e
  | .ok (.vacancy ..), _ => .error .notFound
  | .ok (.node _), none => .error .alreadyExists
  | .ok (.node dir), some name =>
    if files.node? dir != some .directory then .error .notDirectory
    else if longestName < name.utf8ByteSize then .error .nameTooLong
    else if name = "." || name = ".." then .error .alreadyExists
    else .ok (dir.child name)

/-- All that stands at a location and below it, by the names that lead there from it. -/
def subtree (files : FileSystem) (loc : Location) : List (List String × Node) :=
  let own := ((files.node? loc).map fun node => ([], node)).toList
  own ++ files.entries.filterMap fun (other, node) =>
    (loc.below? other).map fun names => (names, node)

/-- The files with a subtree at a location. -/
def plant (files : FileSystem) (loc : Location) (tree : List (List String × Node)) : FileSystem :=
  tree.foldr (fun (names, node) files => files.put ⟨loc.names ++ names⟩ node) files

/-- Reports that something could not be done to an operand. -/
def refuse (what name : String) (e : IoError) : Run Nat := do
  report (what ++ " " ++ inQuotes name ++ ": " ++ reason e)
  return 1

/-- The present directory and the files. -/
def around : Run (Location × FileSystem) := do
  return ((← Run.session).directory, (← Run.world).files)

def storeFiles (files : FileSystem) : Run Unit :=
  Run.change fun world => { world with files := files }

/-- Makes directories one below the other, of which those before the last may not be anything else.
-/
def makeChain (name : String) (verbose : Bool) (last : Path) : List Path → Run Nat
  | [] => return 0
  | dir :: dirs => do
    let (here, files) ← around
    match files.makeDirectory here dir with
    | .ok files =>
      storeFiles files
      if verbose then
        say (name ++ ": created directory " ++ inQuotes (Text.toOctets dir.text) ++ "\n")
      makeChain name verbose last dirs
    | .error e =>
      if files.isDirectory here dir then makeChain name verbose last dirs
      else
        refuse "cannot create directory" (Text.toOctets dir.text)
          (if e = .alreadyExists && dir != last then .notDirectory else e)

def makeDirectories : Utility :=
  withOptions "pv" "m" [("--parents", 'p'), ("--verbose", 'v'), ("--mode", 'm')]
    fun choices operands => do
      if operands.isEmpty then
        reportMisuse "missing operand"
        return 1
      let name := (← Run.session).name
      forOperands (fun operand => do
        let p := hostPath operand
        if choices.has 'p' then makeChain name (choices.has 'v') p p.ancestors.reverse
        else
          let (here, files) ← around
          match files.makeDirectory here p with
          | .ok files =>
            storeFiles files
            if choices.has 'v' then say (name ++ ": created directory " ++ inQuotes operand ++ "\n")
            return 0
          | .error e => refuse "cannot create directory" operand e) operands

/-- Removes a file, or a directory with all that is in it if that is asked for. -/
def removeOperand (choices : Choices) (operand : String) : Run Nat := do
  let (here, files) ← around
  let p := hostPath operand
  let recursive := choices.has 'r' || choices.has 'R'
  match entryAt files here p with
  | .error e =>
    if choices.has 'f' && (e = .notFound || e = .notDirectory) then return 0
    refuse "cannot remove" operand e
  | .ok loc =>
    let isDirectory := files.node? loc == some .directory
    let mayGo := recursive || choices.has 'd' && (files.namesIn loc).isEmpty
    if isDirectory && !mayGo then
      refuse "cannot remove" operand
        (if choices.has 'd' then .os 39 else .isDirectory)
    else if isDirectory && (lastName operand = "." || lastName operand = "..") then
      report ("refusing to remove '.' or '..' directory: skipping " ++ inQuotes operand)
      return 1
    else if loc = .root then
      report "it is dangerous to operate recursively on '/'"
      report "use --no-preserve-root to override this failsafe"
      return 1
    else if !isDirectory && p.endsInSeparator then refuse "cannot remove" operand .notDirectory
    else
      storeFiles (files.remove loc)
      if choices.has 'v' then
        say ((if isDirectory then "removed directory " else "removed ") ++ inQuotes operand ++ "\n")
      return 0
where
  lastName (path : String) : String :=
    (Path.mk path).names.getLastD ""

/-- Removes files, and directories if asked to. -/
def removeFiles : Utility :=
  withOptions "rRfidvI" ""
    [("--recursive", 'r'), ("--force", 'f'), ("--verbose", 'v'), ("--dir", 'd')]
    fun choices operands => do
      if operands.isEmpty && !choices.has 'f' then
        reportMisuse "missing operand"
        return 1
      forOperands (removeOperand choices) operands

def removeDirectories : Utility :=
  withOptions "pv" "" [("--parents", 'p'), ("--ignore-fail-on-non-empty", 'i')]
    fun choices operands => do
      if operands.isEmpty then
        reportMisuse "missing operand"
        return 1
      let remove (operand : String) : Run Nat := do
        let (here, files) ← around
        if choices.has 'v' then
          say ((← Run.session).name ++ ": removing directory, " ++ inQuotes operand ++ "\n")
        match entryAt files here (hostPath operand) with
        | .error e => refuse "failed to remove" operand e
        | .ok loc =>
          if files.node? loc != some .directory then
            refuse "failed to remove" operand .notDirectory
          else if !(files.namesIn loc).isEmpty then
            if choices.has 'i' then return 0
            refuse "failed to remove" operand (.os 39)
          else
            storeFiles (files.remove loc)
            return 0
      forOperands (fun operand => do
        let chain :=
          if choices.has 'p' then
            (hostPath operand).ancestors.map fun p => Text.toOctets p.text
          else [operand]
        let mut status := 0
        for one in chain do
          if status = 0 then status ← remove one
        return status) operands

/-- Makes files that are missing. -/
def touchFiles : Utility :=
  withOptions "cam" "drt" [("--no-create", 'c'), ("--date", 'd')] fun choices operands => do
    if operands.isEmpty then
      reportMisuse "missing file operand"
      return 1
    forOperands (fun operand => do
      let (here, files) ← around
      let p := hostPath operand
      if operand = "-" || (files.locate here p).isOk || choices.has 'c' then return 0
      match files.write here p .empty with
      | .ok files =>
        storeFiles files
        return 0
      | .error e =>
        if e = .isDirectory && p.endsInSeparator then refuse "setting times of" operand .notFound
        else refuse "cannot touch" operand e) operands

def pathInside (directory operand : String) : String :=
  let name := (Path.mk operand).names.getLastD ""
  if directory.endsWith "/" then directory ++ name else directory ++ "/" ++ name

/-- Copies what stands at one path to another one. -/
def copyOne (choices : Choices) (source destination : String) : Run Nat := do
  let (here, files) ← around
  let recursive := choices.has 'r' || choices.has 'R' || choices.has 'a'
  let keepsLinks := choices.has 'a' || choices.has 'd' || choices.has 'P' || recursive
  let from' := hostPath source
  let found := if keepsLinks then entryAt files here from' else files.locate here from'
  match found with
  | .error e => refuse "cannot stat" source e
  | .ok loc =>
    let isDirectory := files.node? loc == some .directory
    if isDirectory && !recursive then
      report ("-r not specified; omitting directory " ++ inQuotes source)
      return 1
    let p := hostPath destination
    let old := (files.locate here p).toOption
    if old = some loc then
      report (inQuotes source ++ " and " ++ inQuotes destination ++ " are the same file")
      return 1
    if choices.has 'n' && old.isSome then return 0
    let tell : Run Unit := do
      if choices.has 'v' then say (inQuotes source ++ " -> " ++ inQuotes destination ++ "\n")
    match files.node? loc with
    | some (.file content executable) =>
      let isNew := old.isNone
      match files.write here p content with
      | .error e =>
        let e := if e = .isDirectory && p.endsInSeparator then .notDirectory else e
        refuse "cannot create regular file" destination e
      | .ok files =>
        let files := match files.locate here p with
          | .ok new =>
            if isNew then
              if (files.node? new).any Node.isFile then files.put new (.file content executable)
              else files
            else files
          | .error _ => files
        storeFiles files
        tell
        return 0
    | some (.sealed cause) => refuse "cannot open" source cause
    | some (.device _) =>
      match files.write here p .empty with
      | .error e => refuse "cannot create regular file" destination e
      | .ok files =>
        storeFiles files
        tell
        return 0
    | _ =>
      match vacancyAt files here p with
      | .error e =>
        refuse (if isDirectory then "cannot create directory" else "cannot create symbolic link")
          destination e
      | .ok new =>
        if isDirectory && (files.node? new).any fun node => node != .directory then
          report ("cannot overwrite non-directory " ++ inQuotes destination ++ " with directory " ++
            inQuotes source)
          return 1
        if (loc.below? new).isSome then
          report ("cannot copy a directory, " ++ inQuotes source ++ ", into itself, " ++
            inQuotes destination)
          return 1
        storeFiles (plant files new (subtree files loc))
        tell
        return 0

/-- Moves what stands at one path to another one. -/
def moveOne (choices : Choices) (source destination : String) : Run Nat := do
  let (here, files) ← around
  match entryAt files here (hostPath source) with
  | .error e => refuse "cannot stat" source e
  | .ok loc =>
    let p := hostPath destination
    let isDirectory := files.node? loc == some .directory
    let toMessage (e : IoError) : Run Nat := do
      report ("cannot move " ++ inQuotes source ++ " to " ++ inQuotes destination ++ ": " ++ reason e)
      return 1
    match vacancyAt files here p with
    | .error e => toMessage e
    | .ok new =>
      let old := files.node? new
      if new = loc then
        report (inQuotes source ++ " and " ++ inQuotes destination ++ " are the same file")
        return 1
      else if choices.has 'n' && old.isSome then return 0
      else if !isDirectory && p.endsInSeparator then toMessage .notDirectory
      else if isDirectory && old.any fun node => node != .directory then
        report ("cannot overwrite non-directory " ++ inQuotes destination ++ " with directory " ++
          inQuotes source)
        return 1
      else if !isDirectory && old == some .directory then
        report ("cannot overwrite directory " ++ inQuotes destination ++ " with non-directory")
        return 1
      else if (loc.below? new).isSome then
        report ("cannot move " ++ inQuotes source ++ " to a subdirectory of itself, " ++
          inQuotes destination)
        return 1
      else if old == some .directory && !(files.namesIn new).isEmpty then toMessage (.os 39)
      else
        let tree := subtree files loc
        storeFiles (plant ((files.remove loc).remove new) new tree)
        if choices.has 'v' then
          say ("renamed " ++ inQuotes source ++ " -> " ++ inQuotes destination ++ "\n")
        return 0

/-- Carries out an action for several sources and their destination, which has to be a directory if
there are several. -/
def towards (choices : Choices) (act : String → String → Run Nat) (operands : List String) :
    Run Nat := do
  let (here, files) ← around
  let isDirectory (name : String) : Bool := files.isDirectory here (hostPath name)
  let into (directory : String) (sources : List String) : Run Nat :=
    forOperands (fun source => act source (pathInside directory source)) sources
  match choices.argument? 't' with
  | some directory =>
    if isDirectory directory then into directory operands
    else
      report ("target directory " ++ inQuotes directory ++ ": " ++
        reason (if (files.locate here (hostPath directory)).isOk then .notDirectory else .notFound))
      return 1
  | none =>
    match operands with
    | [] =>
      reportMisuse "missing file operand"
      return 1
    | [source] =>
      reportMisuse ("missing destination file operand after " ++ inQuotes source)
      return 1
    | operands =>
      let sources := operands.dropLast
      let last := operands.getLastD ""
      if isDirectory last && !choices.has 'T' then into last sources
      else
        match sources with
        | [source] => act source last
        | _ =>
          report ("target " ++ inQuotes last ++ ": " ++
            reason (if (files.locate here (hostPath last)).isOk then .notDirectory else .notFound))
          return 1

/-- Copies files, and directories if asked to. -/
def copyFiles : Utility :=
  withOptions "rRafpnvdPLTiu" "t"
    [("--recursive", 'r'), ("--force", 'f'), ("--verbose", 'v'), ("--no-clobber", 'n'),
      ("--archive", 'a'), ("--target-directory", 't'), ("--preserve", 'p')]
    fun choices operands => towards choices (copyOne choices) operands

def moveFiles : Utility :=
  withOptions "fnviuT" "t"
    [("--force", 'f'), ("--verbose", 'v'), ("--no-clobber", 'n'), ("--target-directory", 't')]
    fun choices operands => towards choices (moveOne choices) operands

/-- Makes a link, or a second name for a file. -/
def linkOne (choices : Choices) (source destination : String) : Run Nat := do
  let (here, files) ← around
  let p := hostPath destination
  let symbolic := choices.has 's'
  let refuseLink (e : IoError) : Run Nat := do
    let ends :=
      if symbolic then if source.isEmpty then " -> " ++ inQuotes source else ""
      else if e = .alreadyExists then ""
      else " => " ++ inQuotes source
    report ("failed to create " ++ (if symbolic then "symbolic link " else "hard link ") ++
      inQuotes destination ++ ends ++ ": " ++ reason e)
    return 1
  if symbolic && source.isEmpty then return ← refuseLink .notFound
  let node? : Except IoError Node :=
    if symbolic then .ok (.link (hostPath source))
    else (entryAt files here (hostPath source)).map fun loc => (files.node? loc).getD .directory
  match node? with
  | .error e => refuse "failed to access" source e
  | .ok node =>
    if node = .directory then
      report (shown source ++ ": hard link not allowed for directory")
      return 1
    match vacancyAt files here p with
    | .error e => refuseLink e
    | .ok new =>
      if p.endsInSeparator then refuseLink .notFound
      else if (files.node? new).isSome && !choices.has 'f' then
        refuseLink .alreadyExists
      else if files.node? new == some .directory then
        report (shown destination ++ ": cannot overwrite directory")
        return 1
      else
        storeFiles (files.put new node)
        if choices.has 'v' then
          say (inQuotes destination ++ (if symbolic then " -> " else " => ") ++ inQuotes source ++
            "\n")
        return 0

/-- Makes links. -/
def linkFiles : Utility :=
  withOptions "sfnvrTi" "t" [("--symbolic", 's'), ("--force", 'f'), ("--no-dereference", 'n')]
    fun choices operands => do
      match operands with
      | [source] => linkOne choices source (pathInside "." source)
      | [source, destination] =>
        let (here, files) ← around
        let isLink := ((entryAt files here (hostPath destination)).toOption.bind files.node?).any
          fun node => node matches .link _
        if choices.has 'T' || choices.has 'n' && isLink then linkOne choices source destination
        else towards choices (linkOne choices) operands
      | operands => towards choices (linkOne choices) operands

/-- Whether a file is executable after its mode has been changed as told, if that can be told. -/
def executableAfter? (mode : String) (isDirectory before : Bool) : Option Bool :=
  let digits := mode.toList
  if !digits.isEmpty && digits.all isOctal then
    let value := digits.foldl (fun n c => n * 8 + (c.toNat - 0x30)) 0
    if value < 0o10000 then some (value &&& 0o111 != 0) else none
  else
    (Text.fields ',' mode).foldlM (fun before (clause : String) =>
      let cs := clause.toList
      let whom := cs.takeWhile fun c => "ugoa".toList.contains c
      let isAll := whom.isEmpty || whom.contains 'a' || ['u', 'g', 'o'].all whom.contains
      match cs.drop whom.length with
      | sign :: letters =>
        if !letters.all fun c => "rwxXst".toList.contains c then none
        else
          let marks := letters.contains 'x' || letters.contains 'X' && (isDirectory || before)
          if sign = '+' then some (before || marks)
          else if sign = '-' then some (before && !(marks && isAll))
          else if sign = '=' then some (marks || before && !isAll)
          else none
      | [] => none) before

/-- Changes the mode of one file, and of all below it if that is asked for. -/
def changeModeOf (choices : Choices) (mode operand : String) : Run Nat := do
  let (here, files) ← around
  match files.locate here (hostPath operand) with
  | .error e =>
    unless choices.has 'f' do
      report ("cannot access " ++ inQuotes operand ++ ": " ++ reason e)
    return 1
  | .ok loc =>
    let wanted := (subtree files loc).filter fun entry => choices.has 'R' || entry.1.isEmpty
    let changed := wanted.filterMap fun (names, node) =>
      match node with
      | .file content before =>
        (executableAfter? mode false before).map fun after => (names, Node.file content after)
      | _ => none
    storeFiles (plant files loc changed)
    return 0

/-- Changes the modes of files. A mode that takes something away looks like an option. -/
def changeModes : Utility := fun args => do
  let isMode (arg : String) : Bool :=
    arg.startsWith "-" && 1 < arg.length &&
      (arg.toList.drop 1).all fun c => "rwxXst,+-=ugoa".toList.contains c
  let modes := args.filter isMode
  let others := args.filter (!isMode ·)
  withOptions "Rvfc" "" [("--recursive", 'R'), ("--verbose", 'v'), ("--quiet", 'f')]
    (fun choices operands => do
      match modes ++ operands with
      | [] =>
        reportMisuse "missing operand"
        return 1
      | [mode] =>
        reportMisuse ("missing operand after " ++ inMarks mode)
        return 1
      | mode :: operands =>
        if (executableAfter? mode false false).isNone then
          reportMisuse ("invalid mode: " ++ inMarks mode)
          return 1
        forOperands (changeModeOf choices mode) operands) others

end CrossGen.Shell
