import CrossGen.Shell.Pattern
import CrossGen.Shell.Utility.Files

/-!
# Utilities that look at directories

Programs that list what stands in directories, and that follow paths and links.
-/

namespace CrossGen.Shell

/-- The name of something in a listing, with a mark for its kind if that is asked for. -/
def labelled (choices : Choices) (name : String) (node : Option Node) : String :=
  let mark :=
    match node with
    | some .directory => if choices.has 'F' || choices.has 'p' then "/" else ""
    | some (.link _) => if choices.has 'F' then "@" else ""
    | some (.file _ true) => if choices.has 'F' then "*" else ""
    | _ => ""
  name ++ mark

/-- Lists names, in reverse order if that is asked for. -/
def inOrder (choices : Choices) (names : List String) : List String :=
  let sorted := names.mergeSort fun a b => a ≤ b
  if choices.has 'r' then sorted.reverse else sorted

def listedNames (choices : Choices) (files : FileSystem) (loc : Location) : List String :=
  let all := (files.namesIn loc).map Text.toOctets
  let own := all.filter fun name =>
    choices.has 'a' || choices.has 'A' || !name.startsWith "."
  inOrder choices (if choices.has 'a' then [".", ".."] ++ own else own)

/-- Lists a directory, and those below it if that is asked for. -/
def listDirectory (choices : Choices) (titled : Bool) (path : String) (loc : Location) :
    Nat → Run Unit
  | 0 => pure ()
  | n + 1 => do
    let files := (← Run.world).files
    let names := listedNames choices files loc
    let nodeOf (name : String) : Option Node := files.node? (loc.child (Text.ofOctets name))
    if titled then say (shown path ++ ":\n")
    say (unlines (names.map fun name => labelled choices name (nodeOf name)))
    if choices.has 'R' then
      for name in names do
        if nodeOf name == some .directory then
          say "\n"
          listDirectory choices true (if path.endsWith "/" then path ++ name else path ++ "/" ++ name)
            (loc.child (Text.ofOctets name)) n

def listFiles : Utility :=
  withOptions "1aAFprRdCtfULHh" "" [("--all", 'a'), ("--almost-all", 'A'), ("--recursive", 'R')]
    fun choices operands => do
      let (here, files) ← around
      let found := (inOrder choices (if operands.isEmpty then ["."] else operands)).map fun name =>
        (name, files.locate here (hostPath name), entryAt files here (hostPath name))
      let mut status := 0
      for (name, target, own) in found do
        if let (.error e, .error _) := (target, own) then
          report ("cannot access " ++ inQuotes name ++ ": " ++ reason e)
          status := 2
      let isDirectory (target : Except IoError Location) : Bool :=
        match target with
        | .ok loc => files.node? loc == some .directory && !choices.has 'd'
        | .error _ => false
      let plain := found.filter fun (_, target, own) => !isDirectory target && own.isOk
      let directories := found.filter fun (_, target, _) => isDirectory target
      for (name, _, own) in plain do
        say (labelled choices name (own.toOption.bind files.node?) ++ "\n")
      let mut isFirst := plain.isEmpty
      for (name, target, _) in directories do
        if let .ok loc := target then
          unless isFirst do say "\n"
          isFirst := false
          listDirectory choices (1 < operands.length || choices.has 'R') name loc pathLimit
      return status

/-- The path that an operand leads to, over all links. Its last name need not be there unless that is
asked for, and nothing of it if that is. -/
def finalPath (mustExist mayMiss : Bool) (operand : String) : Run (Except IoError String) := do
  let (here, files) ← around
  match files.place here (hostPath operand) with
  | .ok (.node loc) => return .ok (shellPath loc)
  | .ok (.vacancy dir name) =>
    if mustExist then return .error .notFound
    return .ok (shellPath (dir.child name))
  | .error e =>
    if mayMiss then
      let full := here.path.join (hostPath operand)
      return .ok (Text.toOctets (Path.ofComponents true (resolve full.names)).text)
    return .error e
where
  resolve (names : List String) : List String :=
    names.foldl (fun names name =>
      if name = "." then names else if name = ".." then names.dropLast else names ++ [name]) []

def printLinks : Utility :=
  withOptions "femnqsvz" "" [("--canonicalize", 'f'), ("--no-newline", 'n')]
    fun choices operands => do
      if operands.isEmpty then
        reportMisuse "missing operand"
        return 1
      let stop := if choices.has 'n' && operands.length = 1 then "" else "\n"
      forOperands (fun operand => do
        if choices.has 'f' || choices.has 'e' || choices.has 'm' then
          match ← finalPath (choices.has 'e') (choices.has 'm') operand with
          | .ok path =>
            say (path ++ stop)
            return 0
          | .error _ => return 1
        else
          let (here, files) ← around
          match (entryAt files here (hostPath operand)).toOption.bind files.node? with
          | some (.link target) =>
            say (Text.toOctets target.text ++ stop)
            return 0
          | _ => return 1) operands

/-- Prints absolute paths without links in them. -/
def printRealPaths : Utility :=
  withOptions "emsqz" "" [("--canonicalize-existing", 'e'), ("--canonicalize-missing", 'm')]
    fun choices operands => do
      if operands.isEmpty then
        reportMisuse "missing operand"
        return 1
      forOperands (fun operand => do
        match ← finalPath (choices.has 'e') (choices.has 'm') operand with
        | .ok path =>
          say (path ++ "\n")
          return 0
        | .error e =>
          unless choices.has 'q' do report (shown operand ++ ": " ++ reason e)
          return 1) operands

/-- A name made from a pattern in which letters take the places of the last signs. -/
def temporaryName (pattern : String) (number : Nat) : String :=
  let cs := pattern.toList
  let signs := (cs.reverse.takeWhile (· == 'X')).length
  let digits := toString number
  String.ofList (cs.take (cs.length - signs)) ++ "".pushn 'a' (signs - digits.length) ++
    String.ofList (digits.toList.drop (digits.length - signs))

/-- Makes a file or a directory of a new name. -/
def makeTemporary : Utility :=
  withOptions "dqut" "p" [("--directory", 'd'), ("--tmpdir", 'p'), ("--dry-run", 'u')]
    fun choices operands => do
      let session ← Run.session
      let (here, files) ← around
      let parent := ((choices.argument? 'p').filter (!·.isEmpty)).getD
        ((session.value? "TMPDIR").getD "/tmp")
      let pattern := operands.headD "tmp.XXXXXXXXXX"
      let isPlain := !operands.isEmpty && !choices.has 'p' && !choices.has 't'
      if !pattern.endsWith "XXX" then
        report ("too few X's in template " ++ inQuotes pattern)
        return 1
      let path (n : Nat) : String :=
        if isPlain then temporaryName pattern n else parent ++ "/" ++ temporaryName pattern n
      let unused := (List.range (files.entries.length + 1)).find? fun n =>
        !(entryAt files here (hostPath (path (session.number + n)))).isOk
      let chosen := path (session.number + unused.getD 0)
      if choices.has 'u' then
        say (chosen ++ "\n")
        return 0
      let made :=
        if choices.has 'd' then files.makeDirectory here (hostPath chosen)
        else files.write here (hostPath chosen) .empty
      match made with
      | .ok files =>
        storeFiles files
        say (chosen ++ "\n")
        return 0
      | .error e =>
        let kind := if choices.has 'd' then "directory" else "file"
        report ("failed to create " ++ kind ++ " via template " ++
          inQuotes (if isPlain then pattern else parent ++ "/" ++ pattern) ++ ": " ++ reason e)
        return 1

/-- What a search for files asks of each, and how deep it goes. -/
structure Search where
  kinds : List String
  names : List (Bool × String)
  least : Nat
  most : Nat
  stop : String

/-- Reads the conditions of a search, or answers the first that is not known. -/
def Search.read (search : Search) : List String → Except String Search
  | [] => .ok search
  | "-type" :: kind :: rest => Search.read { search with kinds := kind :: search.kinds } rest
  | "-name" :: name :: rest => Search.read { search with names := (false, name) :: search.names } rest
  | "-path" :: name :: rest => Search.read { search with names := (true, name) :: search.names } rest
  | "-maxdepth" :: n :: rest => Search.read { search with most := (n.toNat?).getD 0 } rest
  | "-mindepth" :: n :: rest => Search.read { search with least := (n.toNat?).getD 0 } rest
  | "-print" :: rest => Search.read search rest
  | "-print0" :: rest => Search.read { search with stop := "\x00" } rest
  | other :: _ => .error other

/-- Whether a node is of the kind of a letter. -/
def isKind (node : Node) (kind : String) : Bool :=
  match node with
  | .directory => kind == "d"
  | .file .. | .sealed _ => kind == "f"
  | .link _ => kind == "l"
  | .device _ => kind == "c"

/-- Prints the paths below a location that a search asks for. -/
def Search.print (search : Search) (depth : Nat) (path : String) (loc : Location) : Nat → Run Unit
  | 0 => pure ()
  | n + 1 => do
    let files := (← Run.world).files
    let node := (files.node? loc).getD .directory
    let name := (Path.mk path).names.getLastD path
    let fits (isPath : Bool) (pattern : String) : Bool :=
      (Pattern.ofChars (pattern.toList.map fun c => (c, false))).fits
        (if isPath then path else name).toList
    if search.least ≤ depth && search.kinds.all (isKind node) &&
        search.names.all fun entry => fits entry.1 entry.2 then
      say (path ++ search.stop)
    if node == .directory && depth < search.most then
      for name in inOrder ⟨[]⟩ ((files.namesIn loc).map Text.toOctets) do
        search.print (depth + 1) (if path.endsWith "/" then path ++ name else path ++ "/" ++ name)
          (loc.child (Text.ofOctets name)) n

/-- Prints the paths of all that stands below directories. -/
def findFiles : Utility := fun args => do
  let paths := args.takeWhile fun arg => !arg.startsWith "-" && arg != "!" && arg != "("
  match Search.read ⟨[], [], 0, pathLimit, "\n"⟩ (args.drop paths.length) with
  | .error other =>
    report ("unknown predicate `" ++ other ++ "'")
    return 1
  | .ok search =>
    forOperands (fun path => do
      let (here, files) ← around
      match entryAt files here (hostPath path) with
      | .ok loc =>
        search.print 0 path loc pathLimit
        return 0
      | .error e =>
        report (inQuotes path ++ ": " ++ reason e)
        return 1) (if paths.isEmpty then ["."] else paths)

end CrossGen.Shell
