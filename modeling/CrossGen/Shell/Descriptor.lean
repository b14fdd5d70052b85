import CrossGen.Shell.Run

/-!
# Descriptors

Reading and writing through descriptors, and opening files under them. Whoever writes to a pipe that
nobody reads is ended by a signal, unless it takes care of that signal.
-/

namespace CrossGen.Shell

/-- The error of a descriptor that leads nowhere, or that is not open for what is asked of it. -/
def badDescriptor : IoError := .os 9

/-- The error of a pipe that nobody reads. -/
def brokenPipe : IoError := .os 32

/-- The open file that a descriptor leads to, with its number. -/
def openFile? (descriptor : Nat) : Run (Option (Nat × OpenFile)) := do
  match (← Run.session).file? descriptor with
  | none => return none
  | some number => return ((← Run.world).openFiles[number]?).map fun file => (number, file)

/-- Writes to a pipe, as much at a time as there is room for. -/
def writePipe (pipe : Nat) (text : List Char) : Nat → Run (Except IoError Unit)
  | 0 => return .ok ()
  | n + 1 => do
    if text.isEmpty then return .ok ()
    if ← Run.await (.room pipe) then
      let held := ((← Run.world).pipes[pipe]?).getD ""
      let room := 65536 - held.length
      let part := text.take room
      Run.change fun world =>
        { world with pipes := world.pipes.modify pipe fun held => held ++ String.ofList part }
      writePipe pipe (text.drop part.length) n
    else
      match (← Run.session).trap? pipeSignal with
      | some _ => return .error brokenPipe
      | none => throw (.killed pipeSignal)

def writeFile (number : Nat) (file : OpenFile) (text : String) : Run (Except IoError Unit) := do
  if !file.writes then return .error badDescriptor
  if text.isEmpty then return .ok ()
  match file.target with
  | .stream stream =>
    Run.change fun world =>
      { world with output := world.output.push ⟨stream, Text.octetBytes text, world.now⟩ }
    return .ok ()
  | .file loc =>
    Run.change fun world =>
      match world.files.node? loc with
      | some (.file content executable) =>
        let bytes := Text.octetBytes text
        let position := if file.appends then content.size else file.position
        let content := overlay content position bytes
        { world with files := world.files.put loc (.file content executable) }.seek number
          (position + bytes.size)
      | _ => world
    return .ok ()
  | .device .full => return .error .noSpace
  | .device _ => return .ok ()
  | .pipeEnd pipe => writePipe pipe text.toList (text.length + 1)
  | .text _ | .directory => return .error badDescriptor

def write (descriptor : Nat) (text : String) : Run (Except IoError Unit) := do
  match ← openFile? descriptor with
  | none => return .error badDescriptor
  | some (number, file) => writeFile number file text

/-- Writes a text to the standard error, or nowhere if that is not possible. -/
def warn (text : String) : Run Unit := do
  let _ ← write 2 text

/-- Takes up to `most` bytes of a content from a position on. -/
def takeBytes (number : Nat) (file : OpenFile) (content : ByteArray) (most : Nat) : Run String := do
  let part := content.extract file.position (file.position + most)
  Run.change fun world => world.seek number (file.position + part.size)
  return Text.octets part

/-- Reads up to `most` bytes from a descriptor. There are none at its end. -/
def readSome (descriptor most : Nat) : Run (Except IoError String) := do
  match ← openFile? descriptor with
  | none => return .error badDescriptor
  | some (number, file) =>
    if !file.reads then return .error badDescriptor
    match file.target with
    | .file loc =>
      match (← Run.world).files.node? loc with
      | some (.file content _) => return .ok (← takeBytes number file content most)
      | _ => return .ok ""
    | .text content => return .ok (← takeBytes number file content most)
    | .pipeEnd pipe =>
      if ← Run.await (.input pipe) then
        let held := ((← Run.world).pipes[pipe]?).getD ""
        let part := String.ofList (held.toList.take most)
        Run.change fun world =>
          { world with
            pipes := world.pipes.modify pipe fun held => String.ofList (held.toList.drop most) }
        return .ok part
      else return .ok ""
    | .directory => return .error .isDirectory
    | .device .zero | .device .full => return .ok ("".pushn '\x00' most)
    | .stream _ | .device _ => return .ok ""

/-- The descriptor under which a process reads from an open file that only itself knows of. -/
def ownDescriptor (file : Nat) : Nat :=
  1000 + file

/-- The size of the largest piece that is read at once. -/
def blockSize : Nat := 65536

/-- The most pieces that are read one after the other. -/
def mostReads : Nat := 1000000

def readOn (descriptor : Nat) (before : String) : Nat → Run (Except IoError String)
  | 0 => return .ok before
  | n + 1 => do
    match ← readSome descriptor blockSize with
    | .error e => return .error e
    | .ok "" => return .ok before
    | .ok text => readOn descriptor (before ++ text) n

def readAll (descriptor : Nat) : Run (Except IoError String) :=
  readOn descriptor "" mostReads

/-- Puts back what has been read from a descriptor and belongs to others. -/
def unread (descriptor : Nat) (text : String) : Run Unit := do
  match ← openFile? descriptor with
  | some (number, file) =>
    match file.target with
    | .pipeEnd pipe =>
      Run.change fun world =>
        { world with pipes := world.pipes.modify pipe fun held => text ++ held }
    | _ => Run.change fun world => world.seek number (file.position - text.length)
  | none => pure ()

/-- Reads a line behind what has been read of it, and says whether it is complete. What follows it
stays unread. -/
def readLineOn (descriptor : Nat) (before : List Char) : Nat → Run (Except IoError (String × Bool))
  | 0 => return .ok (String.ofList before, false)
  | n + 1 => do
    match ← readSome descriptor blockSize with
    | .error e => return .error e
    | .ok "" => return .ok (String.ofList before, false)
    | .ok text =>
      let line := text.toList.takeWhile (· != '\n')
      if line.length < text.length then
        unread descriptor (String.ofList (text.toList.drop (line.length + 1)))
        return .ok (String.ofList (before ++ line), true)
      else readLineOn descriptor (before ++ line) n

def readLine (descriptor : Nat) : Run (Except IoError (String × Bool)) :=
  readLineOn descriptor [] mostReads

/-- The descriptor that a path stands for. -/
def descriptorOf? (path : String) : Option Nat :=
  match path with
  | "/dev/stdin" => some 0
  | "/dev/stdout" => some 1
  | "/dev/stderr" => some 2
  | _ =>
    match (Path.mk path).names with
    | ["dev", "fd", number] | ["proc", "self", "fd", number] => number.toNat?
    | _ => none

/-- The ways in which a file is opened. -/
inductive Opening where
  | read
  | write
  | append
  | update
deriving DecidableEq

/-- What stands at a location, as the target of an open file. -/
def targetAt (files : FileSystem) (loc : Location) : Except IoError Target :=
  match files.node? loc with
  | some (.file ..) => .ok (.file loc)
  | some (.sealed cause) => .error cause
  | some .directory => .ok .directory
  | some (.device .terminal) => .error .noSuchDevice
  | some (.device kind) => .ok (.device kind)
  | _ => .error .notFound

/-- Opens the file that a path leads to, which is made if it is to be written, and answers the
number of what has been opened. -/
def openPath (path : String) (opening : Opening) : Run (Except IoError Nat) := do
  let session ← Run.session
  let world ← Run.world
  match descriptorOf? path with
  | some descriptor =>
    match session.file? descriptor with
    | some number => return .ok number
    | none => return .error .notFound
  | none =>
    let p := hostPath path
    let opened : Except IoError (FileSystem × Target) := do
      if opening = .read then
        let loc ← world.files.locate session.directory p
        return (world.files, ← targetAt world.files loc)
      else
        let old := (world.files.locate session.directory p).toOption
        let isKept := opening ≠ .write && (old.bind world.files.node?).any Node.isFile
        let files ←
          if isKept then pure world.files else world.files.write session.directory p .empty
        let loc ← files.locate session.directory p
        return (files, ← targetAt files loc)
    match opened with
    | .error e => return .error e
    | .ok (files, target) =>
      let file : OpenFile :=
        { target := target
          reads := opening = .read || opening = .update
          writes := opening ≠ .read
          appends := opening = .append
          position := 0 }
      Run.change fun world => ({ world with files := files }).addFile file
      return .ok world.nextFile

def emptyInput : Run Unit := do
  let number := (← Run.world).nextFile
  Run.change fun world => world.addFile ⟨.device .void, true, false, false, 0⟩
  Run.update fun session => session.direct 0 number

end CrossGen.Shell
