import CrossGen.Generation
import CrossGen.Proofs.Host.Action

/-!
# The course of a run

What a run does is described here without the program, by what each stage answers: the entries that
are produced one after the other, the points at which an entry fails, and the points at which the
run stops.  The description is then shown to be that of the program.
-/

namespace CrossGen.Generation

variable (stages : Stages) (configuration : Configuration) (shape : Shape) (combined : Path)

/-! ## One entry -/

/-- The options for an entry of the matrix, whether its shape supports the target or not. -/
def optionsOf (entry : Entry) : Invocation :=
  .assemble entry.target combined configuration.output configuration.settings

/-- What the transpiler is to do for an entry, with the compiler of the entry. -/
def taskOf (entry : Entry) : Task :=
  taskFor entry (optionsOf configuration combined entry)

def callOf (entry : Entry) : Call :=
  .transpile (taskOf configuration combined entry)

def outputOf (entry : Entry) : Path :=
  configuration.settings.outputPath configuration.output entry.target

/-- An entry is transpiled, and its output is a file that can be read. -/
inductive Produces (s : Run) (entry : Entry) : GeneratedFile → Run → Prop
  | intro {host : Host} {content : ByteArray}
      (supported : shape.supports entry.target.system = true)
      (transpiled :
        stages.transpile (taskOf configuration combined entry) s.host = .ok () host)
      (present : host.files.isFile host.directory (outputOf configuration entry) = true)
      (readable : host.files.read host.directory (outputOf configuration entry) = .ok content) :
      Produces s entry
        ⟨entry.target, outputOf configuration entry, content.size, Digest.sha256 content,
          entry.compiler⟩
        ⟨host, s.calls ++ [callOf configuration combined entry]⟩

/-- An entry fails: its shape does not support the target, and then it is not transpiled; or the
transpiler fails; or it leaves no file, or none that can be read. -/
inductive FailsAt (s : Run) (entry : Entry) : Failure → Run → Prop
  | unsupported (unsupported : shape.supports entry.target.system = false) :
      FailsAt s entry (.target (.unsupported entry.target.key shape.name)) s
  | transpile {e : TranspileError} {host : Host}
      (supported : shape.supports entry.target.system = true)
      (failed :
        stages.transpile (taskOf configuration combined entry) s.host = .error e host) :
      FailsAt s entry (.transpile entry.target.key e)
        ⟨host, s.calls ++ [callOf configuration combined entry]⟩
  | absent {host : Host}
      (supported : shape.supports entry.target.system = true)
      (transpiled :
        stages.transpile (taskOf configuration combined entry) s.host = .ok () host)
      (absent : host.files.isFile host.directory (outputOf configuration entry) = false) :
      FailsAt s entry (.missingOutput entry.target.key (outputOf configuration entry))
        ⟨host, s.calls ++ [callOf configuration combined entry]⟩
  | unreadable {host : Host} {e : IoError}
      (supported : shape.supports entry.target.system = true)
      (transpiled :
        stages.transpile (taskOf configuration combined entry) s.host = .ok () host)
      (present : host.files.isFile host.directory (outputOf configuration entry) = true)
      (unreadable : host.files.read host.directory (outputOf configuration entry) = .error e) :
      FailsAt s entry (.io e) ⟨host, s.calls ++ [callOf configuration combined entry]⟩

/-- Entries are produced one after the other. -/
inductive Completed : Run → List Entry → List GeneratedFile → Run → Prop
  | nil (s : Run) : Completed s [] [] s
  | cons {s t u : Run} {entry : Entry} {file : GeneratedFile}
      {rest : List Entry} {files : List GeneratedFile}
      (first : Produces stages configuration shape combined s entry file t)
      (others : Completed t rest files u) :
      Completed s (entry :: rest) (file :: files) u

variable {stages configuration shape combined}

theorem invocationFor_of_supported
    {entry : Entry} (h : shape.supports entry.target.system = true) :
    invocationFor configuration shape combined entry =
      .ok (optionsOf configuration combined entry) := by
  rw [invocationFor, Invocation.build, Shape.check, if_pos h]
  rfl

theorem invocationFor_of_unsupported
    {entry : Entry} (h : shape.supports entry.target.system = false) :
    invocationFor configuration shape combined entry =
      .error (.unsupported entry.target.key shape.name) := by
  rw [invocationFor, Invocation.build, Shape.check, h]
  rfl

/-! ## Entries that are produced one after the other -/

theorem Completed.length_eq
    {s t : Run} {entries : List Entry} {files : List GeneratedFile}
    (h : Completed stages configuration shape combined s entries files t) :
    files.length = entries.length := by
  induction h with
  | nil s => rfl
  | cons first others ih => rw [List.length_cons, List.length_cons, ih]

theorem Completed.append
    {s t u : Run} {done rest : List Entry} {files others : List GeneratedFile}
    (h : Completed stages configuration shape combined s done files t)
    (hrest : Completed stages configuration shape combined t rest others u) :
    Completed stages configuration shape combined s (done ++ rest) (files ++ others) u := by
  induction h with
  | nil s => exact hrest
  | cons first following ih => exact .cons first (ih hrest)

/-- Between the entries before it and those behind it, each entry is produced. -/
theorem Completed.exists_produces
    {s t : Run} {before later : List Entry} {entry : Entry} {files : List GeneratedFile}
    (h : Completed stages configuration shape combined s (before ++ entry :: later) files t) :
    ∃ done file others u v, files = done ++ file :: others ∧
      Completed stages configuration shape combined s before done u ∧
      Produces stages configuration shape combined u entry file v ∧
      Completed stages configuration shape combined v later others t := by
  induction before generalizing s files with
  | nil =>
      cases h with
      | @cons _ v _ _ file _ others first following =>
          exact ⟨[], file, others, s, v, rfl, .nil s, first, following⟩
  | cons head before ih =>
      cases h with
      | cons first following =>
          obtain ⟨done, file, others, u, v, rfl, hbefore, hentry, hlater⟩ := ih following
          exact ⟨_ :: done, file, others, u, v, rfl, .cons first hbefore, hentry, hlater⟩

/-! ## The program on one entry -/

theorem onHost_of_ok
    {ε α : Type} {act : Act ε α} {s : Run} {host : Host} {a : α} (h : act s.host = .ok a host) :
    onHost act s = .ok a ⟨host, s.calls⟩ := by
  rw [onHost, h]

theorem onHost_of_error
    {ε α : Type} {act : Act ε α} {s : Run} {host : Host} {e : ε} (h : act s.host = .error e host) :
    onHost act s = .error e ⟨host, s.calls⟩ := by
  rw [onHost, h]

theorem call_of_ok
    {ε α : Type} {act : Act ε α} {s : Run} {host : Host} {a : α} (h : act s.host = .ok a host)
    (made : Call) :
    call made act s = .ok a ⟨host, s.calls ++ [made]⟩ :=
  onHost_of_ok (s := ⟨s.host, s.calls ++ [made]⟩) h

theorem call_of_error
    {ε α : Type} {act : Act ε α} {s : Run} {host : Host} {e : ε} (h : act s.host = .error e host)
    (made : Call) :
    call made act s = .error e ⟨host, s.calls ++ [made]⟩ :=
  onHost_of_error (s := ⟨s.host, s.calls ++ [made]⟩) h

theorem inspect_of_ok
    {target : Target} {path : Path} {compiler : Option String} {host : Host} {content : ByteArray}
    (h : host.files.read host.directory path = .ok content) :
    GeneratedFile.inspect target path compiler host =
      .ok ⟨target, path, content.size, Digest.sha256 content, compiler⟩ host := by
  rw [GeneratedFile.inspect, bind_of_ok (Host.readFile_of_ok h)]
  rfl

theorem inspect_of_error
    {target : Target} {path : Path} {compiler : Option String} {host : Host} {e : IoError}
    (h : host.files.read host.directory path = .error e) :
    GeneratedFile.inspect target path compiler host = .error e host := by
  rw [GeneratedFile.inspect, bind_of_error (Host.readFile_of_error h)]

theorem produce_of_transpiled
    {s : Run} {entry : Entry} {invocation : Invocation} {host : Host}
    (h : stages.transpile (taskFor entry invocation) s.host = .ok () host) :
    produce stages entry invocation s =
      (if host.files.isFile host.directory invocation.output then
        onHost (Host.failAs .io
          (GeneratedFile.inspect entry.target invocation.output entry.compiler))
      else throw (.missingOutput entry.target.key invocation.output))
        ⟨host, s.calls ++ [.transpile (taskFor entry invocation)]⟩ := by
  rw [produce, bind_of_ok (call_of_ok (Host.failAs_of_ok h _) _),
    bind_of_ok (onHost_of_ok (Host.isFile_eq _ _))]

theorem produce_of_failed
    {s : Run} {entry : Entry} {invocation : Invocation} {e : TranspileError} {host : Host}
    (h : stages.transpile (taskFor entry invocation) s.host = .error e host) :
    produce stages entry invocation s =
      .error (.transpile entry.target.key e)
        ⟨host, s.calls ++ [.transpile (taskFor entry invocation)]⟩ := by
  rw [produce, bind_of_error (call_of_error (Host.failAs_of_error h _) _)]
  rfl

theorem Produces.produce_eq
    {s t : Run} {entry : Entry} {file : GeneratedFile}
    (h : Produces stages configuration shape combined s entry file t) :
    produce stages entry (optionsOf configuration combined entry) s = .ok file t := by
  cases h with
  | intro supported transpiled present readable =>
      rw [produce_of_transpiled transpiled]
      exact (congrFun (if_pos present) _).trans
        (onHost_of_ok (Host.failAs_of_ok (inspect_of_ok readable) _))

/-! ## The program on all entries -/

theorem produceAll_nil (s : Run) :
    produceAll stages configuration shape combined [] s = .ok [] s :=
  rfl

theorem produceAll_cons_of_supported
    {entry : Entry} (h : shape.supports entry.target.system = true) (rest : List Entry) :
    produceAll stages configuration shape combined (entry :: rest) =
      (do
        let file ← produce stages entry (optionsOf configuration combined entry)
        let files ← produceAll stages configuration shape combined rest
        return file :: files) := by
  rw [produceAll, invocationFor_of_supported h]

theorem Produces.supported
    {s t : Run} {entry : Entry} {file : GeneratedFile}
    (h : Produces stages configuration shape combined s entry file t) :
    shape.supports entry.target.system = true := by
  cases h with
  | intro supported transpiled present readable => exact supported

theorem Produces.produceAll_cons
    {s t : Run} {entry : Entry} {file : GeneratedFile}
    (h : Produces stages configuration shape combined s entry file t) (rest : List Entry) :
    produceAll stages configuration shape combined (entry :: rest) s =
      (do
        let files ← produceAll stages configuration shape combined rest
        return file :: files : Step Failure (List GeneratedFile)) t := by
  rw [produceAll_cons_of_supported h.supported, bind_of_ok h.produce_eq]

theorem FailsAt.produceAll_cons
    {s t : Run} {entry : Entry} {failure : Failure}
    (h : FailsAt stages configuration shape combined s entry failure t) (rest : List Entry) :
    produceAll stages configuration shape combined (entry :: rest) s = .error failure t := by
  cases h with
  | unsupported unsupported =>
      rw [produceAll, invocationFor_of_unsupported unsupported]
      rfl
  | transpile supported failed =>
      rw [produceAll_cons_of_supported supported]
      exact bind_of_error (produce_of_failed failed) _
  | absent supported transpiled absent =>
      rw [produceAll_cons_of_supported supported]
      refine bind_of_error ?_ _
      rw [produce_of_transpiled transpiled]
      exact congrFun (if_neg (Bool.eq_false_iff.mp absent)) _
  | unreadable supported transpiled present unreadable =>
      rw [produceAll_cons_of_supported supported]
      refine bind_of_error ?_ _
      rw [produce_of_transpiled transpiled]
      exact (congrFun (if_pos present) _).trans
        (onHost_of_error (Host.failAs_of_error (inspect_of_error unreadable) _))

theorem Completed.produceAll_eq
    {s t : Run} {entries : List Entry} {files : List GeneratedFile}
    (h : Completed stages configuration shape combined s entries files t) :
    produceAll stages configuration shape combined entries s = .ok files t := by
  induction h with
  | nil s => exact produceAll_nil s
  | cons first others ih =>
      rw [first.produceAll_cons, bind_of_ok ih]
      rfl

theorem FailsAt.produceAll_append
    {s t u : Run} {done : List Entry} {files : List GeneratedFile} {entry : Entry}
    {failure : Failure}
    (hdone : Completed stages configuration shape combined s done files t)
    (hfails : FailsAt stages configuration shape combined t entry failure u)
    (rest : List Entry) :
    produceAll stages configuration shape combined (done ++ entry :: rest) s =
      .error failure u := by
  induction hdone with
  | nil s => exact hfails.produceAll_cons rest
  | cons first others ih =>
      rw [List.cons_append, first.produceAll_cons, bind_of_error (ih hfails)]

/-! ## Nothing else can happen -/

/-- Every entry is produced or fails. -/
theorem produces_or_failsAt (s : Run) (entry : Entry) :
    (∃ file t, Produces stages configuration shape combined s entry file t) ∨
      ∃ failure t, FailsAt stages configuration shape combined s entry failure t := by
  cases hsupported : shape.supports entry.target.system with
  | false => exact .inr ⟨_, _, .unsupported hsupported⟩
  | true =>
      cases htranspile : stages.transpile (taskOf configuration combined entry) s.host with
      | error e host => exact .inr ⟨_, _, .transpile hsupported htranspile⟩
      | ok done host =>
          cases hpresent : host.files.isFile host.directory (outputOf configuration entry) with
          | false => exact .inr ⟨_, _, .absent hsupported htranspile hpresent⟩
          | true =>
              cases hread : host.files.read host.directory (outputOf configuration entry) with
              | error e => exact .inr ⟨_, _, .unreadable hsupported htranspile hpresent hread⟩
              | ok content => exact .inl ⟨_, _, .intro hsupported htranspile hpresent hread⟩

/-- Either all entries are produced, or there is a first one that fails. -/
theorem completed_or_failsAt (entries : List Entry) (s : Run) :
    (∃ files t, Completed stages configuration shape combined s entries files t) ∨
      ∃ done entry rest files t failure u, entries = done ++ entry :: rest ∧
        Completed stages configuration shape combined s done files t ∧
        FailsAt stages configuration shape combined t entry failure u := by
  induction entries generalizing s with
  | nil => exact .inl ⟨[], s, .nil s⟩
  | cons entry rest ih =>
      rcases produces_or_failsAt s entry with ⟨file, t, hfirst⟩ | ⟨failure, t, hfails⟩
      · rcases ih t with ⟨files, u, hothers⟩ |
          ⟨done, next, left, files, u, failure, v, rfl, hdone, hfails⟩
        · exact .inl ⟨file :: files, u, .cons hfirst hothers⟩
        · exact .inr ⟨entry :: done, next, left, file :: files, u, failure, v, rfl,
            .cons hfirst hdone, hfails⟩
      · exact .inr ⟨[], entry, rest, [], s, failure, t, rfl, .nil s, hfails⟩

end CrossGen.Generation
