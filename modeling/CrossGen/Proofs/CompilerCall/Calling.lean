import CrossGen.CommandLine.Run
import CrossGen.Proofs.CompilerCall.Installed
import CrossGen.Proofs.CompilerCall.Splitting
import CrossGen.Proofs.Host.Trying

/-!
# What a wrapper does

A wrapper that is asked for an unknown way to split arguments starts nothing.  Otherwise it starts the
compiler that it is asked for exactly once, whatever becomes of that, with the further arguments in
front of those that it has received.  Of all that may happen it tells only whether the compiler ended
with the status 0.
-/

namespace CrossGen.CompilerCall

open CommandLine

/-! ## What an environment asks for -/

inductive AsksToSplit (env : Environment) : SplitMode → Prop
  | unset (h : env.Unset "CCWRAP_SPLIT") : AsksToSplit env .strict
  | strict (h : env.lookup? "CCWRAP_SPLIT" = some "strict") : AsksToSplit env .strict
  | legacy (h : env.lookup? "CCWRAP_SPLIT" = some "legacy") : AsksToSplit env .legacy

/-- What an environment asks a wrapper for: a way to split arguments, a compiler, and the text of
further arguments, if there is one. -/
structure Asks
    (env : Environment) (mode : SplitMode) (compiler : String) (text : Option String) : Prop where
  split : AsksToSplit env mode
  compiler : ∃ named, env.FirstText ["CCWRAP_CC", "CC"] named ∧ compiler = named.getD "cc"
  text : env.FirstText ["CCWRAP_EXT_ARGS", "EXT_ARGS"] text

variable {env : Environment} {mode : SplitMode} {compiler : String} {text : Option String}

theorem AsksToSplit.ofEnvironment_eq (h : AsksToSplit env mode) :
    SplitMode.ofEnvironment env = .ok mode := by
  unfold SplitMode.ofEnvironment
  cases h with
  | unset h =>
      rw [Environment.value?_eq_none_iff.mpr h]
  | strict h =>
      rw [Environment.value?_eq_some_iff.mpr ⟨h, by decide⟩]
      rfl
  | legacy h =>
      rw [Environment.value?_eq_some_iff.mpr ⟨h, by decide⟩]
      rfl

theorem exists_asksToSplit (h : ¬UnknownSplit env) : ∃ mode, AsksToSplit env mode := by
  cases hvalue : env.value? "CCWRAP_SPLIT" with
  | none => exact ⟨.strict, .unset (Environment.value?_eq_none_iff.mp hvalue)⟩
  | some value =>
      obtain ⟨hset, -⟩ := Environment.value?_eq_some_iff.mp hvalue
      by_cases hstrict : value = "strict"
      · exact ⟨.strict, .strict (hstrict ▸ hset)⟩
      · by_cases hlegacy : value = "legacy"
        · exact ⟨.legacy, .legacy (hlegacy ▸ hset)⟩
        · exact absurd ⟨value, hvalue, hstrict, hlegacy⟩ h

theorem Asks.ofEnvironment_eq (h : Asks env mode compiler text) :
    ofEnvironment env = .ok ⟨compiler, mode.split text⟩ := by
  obtain ⟨named, hnamed, rfl⟩ := h.compiler
  unfold ofEnvironment Environment.firstValueD
  rw [h.split.ofEnvironment_eq, Environment.firstValue?_eq_iff.mpr hnamed,
    Environment.firstValue?_eq_iff.mpr h.text]

theorem exists_asks (h : ¬UnknownSplit env) : ∃ mode compiler text, Asks env mode compiler text := by
  obtain ⟨mode, hmode⟩ := exists_asksToSplit h
  have hcompiler := Environment.firstValue?_eq_iff.mp (Eq.refl (env.firstValue? ["CCWRAP_CC", "CC"]))
  exact ⟨mode, _, _, hmode, ⟨_, hcompiler, rfl⟩, Environment.firstValue?_eq_iff.mp rfl⟩

/-! ## Arguments -/

/-- No argument is split off between any number of spaces that is empty. -/
theorem ne_empty_of_mem_split_strict {token : String} (h : token ∈ SplitMode.strict.split text) :
    token ≠ "" := by
  have htext : text = none ∨ ∃ value, text = some value := by
    cases text <;> simp
  rcases htext with rfl | ⟨value, rfl⟩
  · rw [SplitMode.split_none, SplitMode.split_strict_empty] at h
    cases h
  · rw [SplitMode.split_strict] at h
    simpa using (List.mem_filter.mp h).2

/-- An empty argument can only be one of those that were received, at its own place among them. -/
theorem exists_received_of_empty
    {received : List String} {position : Nat}
    (h : (SplitMode.strict.split text ++ received)[position]? = some "") :
    ∃ place, position = (SplitMode.strict.split text).length + place ∧
      received[place]? = some "" := by
  by_cases hposition : position < (SplitMode.strict.split text).length
  · rw [List.getElem?_append_left hposition] at h
    exact absurd rfl (ne_empty_of_mem_split_strict (List.mem_of_getElem? h))
  · have hle : (SplitMode.strict.split text).length ≤ position := Nat.le_of_not_lt hposition
    rw [List.getElem?_append_right hle] at h
    exact ⟨position - (SplitMode.strict.split text).length, by omega, h⟩

/-! ## Runs -/

variable {host : Host}

/-- Calling a compiler tries it once, and succeeds exactly if it ends with the status 0. -/
theorem exists_run (call : CompilerCall) (received : List String) (host : Host) :
    ∃ after,
      host.Tries after
        [⟨call.command received, host.endingOf call.compiler (call.args received)⟩] ∧
      ((host.endingOf call.compiler (call.args received) = .ok (.exited 0) ∧
          call.run received host = .ok () after) ∨
        host.endingOf call.compiler (call.args received) ≠ .ok (.exited 0) ∧
          ∃ e, call.run received host = .error e after) := by
  obtain ⟨after, htries, hanswer⟩ :=
    Host.executeShown_plain (fun _ => true) call.compiler (call.args received) host
  refine ⟨after, htries, ?_⟩
  rcases hanswer with ⟨ending, hending, hshown⟩ | ⟨cause, hcause, hshown⟩
  · have hcalled := Host.failAs_of_ok hshown (CompilerCallError.notLaunched call.compiler)
    have hzero : host.endingOf call.compiler (call.args received) = .ok (.exited 0) ↔
        ending.isSuccess = true := by
      rw [hending, Except.ok.injEq, Ending.isSuccess_iff]
    by_cases hsuccess : ending.isSuccess = true
    · left
      refine ⟨hzero.mpr hsuccess, ?_⟩
      rw [run, command, bind_of_ok hcalled, if_pos hsuccess]
      rfl
    · right
      refine ⟨mt hzero.mp hsuccess, .failed call.compiler ending.status?, ?_⟩
      rw [run, command, bind_of_ok hcalled, if_neg hsuccess]
      rfl
  · right
    have hfailed := Host.failAs_of_error hshown (CompilerCallError.notLaunched call.compiler)
    rw [hcause]
    refine ⟨nofun, .notLaunched call.compiler cause, ?_⟩
    rw [run, command, bind_of_error hfailed]

theorem concluding_of_ok
    {ε : Type} {act : Act ε Unit} {after : Host} (h : act host = .ok () after)
    (failed : ε → Nat × String) :
    concluding failed act host = (0, after) := by
  rw [concluding, h]

theorem concluding_of_error
    {ε : Type} {act : Act ε Unit} {after : Host} {e : ε} (h : act host = .error e after)
    (failed : ε → Nat × String) :
    ∃ console, concluding failed act host = ((failed e).1, { after with console := console }) := by
  rw [concluding, h]
  exact ⟨_, rfl⟩

theorem runCompilerCall_of_unknownSplit
    (h : UnknownSplit host.environment) (received : List String) :
    ∃ console, runCompilerCall received host = (1, { host with console := console }) := by
  obtain ⟨e, he⟩ := exists_error_iff_unknownSplit.mpr h
  unfold runCompilerCall
  apply concluding_of_error
  apply bind_of_error
  exact Host.ofExcept_eq_error_iff.mpr ⟨he, rfl⟩

theorem runCompilerCall_of_ofEnvironment
    {call : CompilerCall} (h : ofEnvironment host.environment = .ok call) (received : List String) :
    ∃ status after, runCompilerCall received host = (status, after) ∧
      after.attempts = host.attempts ++
        [⟨call.command received, host.endingOf call.compiler (call.args received)⟩] ∧
      ((host.endingOf call.compiler (call.args received) = .ok (.exited 0) ∧ status = 0) ∨
        host.endingOf call.compiler (call.args received) ≠ .ok (.exited 0) ∧ status = 1) := by
  have hasked : (Host.ofExcept (ofEnvironment host.environment) : Act CompilerCallError _) host =
      .ok call host :=
    Host.ofExcept_eq_ok_iff.mpr ⟨h, rfl⟩
  obtain ⟨after, htries, ⟨hzero, hrun⟩ | ⟨hother, e, hrun⟩⟩ := exists_run call received host
  · refine ⟨0, after, ?_, htries.attempts, Or.inl ⟨hzero, rfl⟩⟩
    unfold runCompilerCall
    apply concluding_of_ok
    rw [bind_of_ok hasked, hrun]
  -- Telling the error comes after the attempt and leaves the record of it as it is.
  · have hrun' := (bind_of_ok hasked fun call => call.run received).trans hrun
    obtain ⟨console, hconsole⟩ := concluding_of_error hrun' fun e =>
      (1, "ccwrap: " ++ joinTrail (compilerCallTrail e) ++ "\n")
    exact ⟨1, { after with console := console }, hconsole, htries.attempts,
      Or.inr ⟨hother, rfl⟩⟩

/-- Whatever the environment, the received arguments and the machine are, a wrapper that is asked for
an unknown way to split arguments tries no command and ends with the status 1.  Otherwise the
environment asks for a way to split, a compiler and a text of further arguments, and the wrapper tries
one command: this compiler, with the arguments in the text and behind them those that were received.
It ends with the status 0 if the compiler was started and did so, and with 1 in all other cases.
Between any number of spaces the wrapper adds no empty argument. -/
theorem wrapper_calls_one_compiler (host : Host) (received : List String) :
    (UnknownSplit host.environment →
      ∃ after, runCompilerCall received host = (1, after) ∧ after.attempts = host.attempts) ∧
    (¬UnknownSplit host.environment →
      ∃ mode compiler text, Asks host.environment mode compiler text) ∧
    ∀ mode compiler text, Asks host.environment mode compiler text →
      (∃ status after, runCompilerCall received host = (status, after) ∧
        after.attempts = host.attempts ++
          [⟨.plain compiler (mode.split text ++ received),
            host.endingOf compiler (mode.split text ++ received)⟩] ∧
        ((host.endingOf compiler (mode.split text ++ received) = .ok (.exited 0) ∧ status = 0) ∨
          host.endingOf compiler (mode.split text ++ received) ≠ .ok (.exited 0) ∧ status = 1)) ∧
      (mode = .strict → ∀ position, (mode.split text ++ received)[position]? = some "" →
        ∃ place, position = (mode.split text).length + place ∧ received[place]? = some "") := by
  refine ⟨?_, exists_asks, ?_⟩
  · intro hunknown
    obtain ⟨console, h⟩ := runCompilerCall_of_unknownSplit hunknown received
    exact ⟨_, h, rfl⟩
  · intro mode compiler text hasks
    refine ⟨runCompilerCall_of_ofEnvironment hasks.ofEnvironment_eq received, ?_⟩
    rintro rfl position hempty
    exact exists_received_of_empty hempty

/-! ### A compiler that fails -/

def failingHost (pairs : List (String × String)) : Host :=
  .fresh .empty .root (.ofPairs pairs) fun launch =>
    .ok ⟨.exited 42, [], launch.files, fun _ => launch.files, 0⟩

/-- A host on which the wrapper is asked for clang, and for one argument among spaces. -/
def spacedHost : Host :=
  failingHost [("CCWRAP_CC", ""), ("CC", "clang"), ("EXT_ARGS", " -O2 ")]

/-- A host on which the wrapper is asked to split arguments as a shell does. -/
def shellHost : Host :=
  failingHost [("CCWRAP_SPLIT", "shell")]

/-- The wrapper passes over a variable that is empty, leaves out the spaces around the further argument
and keeps the empty one that it has received.  It tells the status 42 as 1, as it does when it starts
nothing at all. -/
theorem failing_compiler_is_told_as_one :
    (UnknownSplit shellHost.environment ∧
      ∃ after, runCompilerCall ["-c"] shellHost = (1, after) ∧ after.attempts = []) ∧
    (¬UnknownSplit spacedHost.environment ∧
      Asks spacedHost.environment .strict "clang" (some " -O2 ")) ∧
    (∃ status after, runCompilerCall ["-c", ""] spacedHost = (status, after) ∧
      after.attempts = [⟨.plain "clang" ["-O2", "-c", ""], .ok (.exited 42)⟩] ∧ status = 1) ∧
    ∃ place, 2 = 1 + place ∧ ["-c", ""][place]? = some "" := by
  obtain ⟨hrefused, -, -⟩ := wrapper_calls_one_compiler shellHost ["-c"]
  obtain ⟨-, -, hcalled⟩ := wrapper_calls_one_compiler spacedHost ["-c", ""]
  have hunknown : UnknownSplit shellHost.environment := ⟨"shell", by decide, by decide, by decide⟩
  have hknown : ¬UnknownSplit spacedHost.environment := by
    rintro ⟨value, hvalue, -⟩
    have hnone : spacedHost.environment.value? "CCWRAP_SPLIT" = none := by decide
    rw [hnone] at hvalue
    cases hvalue
  have hasks : Asks spacedHost.environment .strict "clang" (some " -O2 ") :=
    { split := .unset (.inl (by decide))
      compiler := ⟨some "clang", Environment.firstValue?_eq_iff.mp (by decide), rfl⟩
      text := Environment.firstValue?_eq_iff.mp (by decide) }
  have hargs : SplitMode.strict.split (some " -O2 ") = ["-O2"] := by decide
  have hending : spacedHost.endingOf "clang" ["-O2", "-c", ""] = .ok (.exited 42) := by rfl
  have hfirst : spacedHost.attempts = [] := rfl
  obtain ⟨⟨status, after, hrun, hattempts, hstatus⟩, hempty⟩ := hcalled _ _ _ hasks
  rw [hargs] at hattempts hstatus hempty
  have hwords : ["-O2"] ++ ["-c", ""] = ["-O2", "-c", ""] := rfl
  rw [hwords, hending] at hattempts hstatus
  rw [hfirst] at hattempts
  refine ⟨⟨hunknown, hrefused hunknown⟩, ⟨hknown, hasks⟩, ⟨status, after, hrun, hattempts, ?_⟩,
    hempty rfl 2 (by decide)⟩
  rcases hstatus with ⟨hzero, -⟩ | ⟨-, hone⟩
  · cases hzero
  · exact hone

end CrossGen.CompilerCall
