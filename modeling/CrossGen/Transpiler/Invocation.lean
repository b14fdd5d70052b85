import CrossGen.Configuration
import CrossGen.Target.Matrix

/-!
# How the transpiler is called

Every target is transpiled with the same options, followed by the tolerances of its operating
system. Tolerances of different operating systems never mix.
-/

namespace CrossGen

/-- A known limitation of the transpiler that is accepted on a platform. -/
inductive Tolerance where
  | missingQsortR
  | unsupportedAlignment
  | missingQsortS
  | missingClock
  /-- The header with this include guard is made to be empty. -/
  | suppressedHeader (guard : String)
deriving DecidableEq, Repr

namespace Tolerance

/-- The include guards of the headers for processor intrinsics that windows does without. -/
def intrinsicGuards : List String :=
  ["_MMINTRIN_H_INCLUDED", "_XMMINTRIN_H_INCLUDED", "_EMMINTRIN_H_INCLUDED",
    "_PMMINTRIN_H_INCLUDED", "_TMMINTRIN_H_INCLUDED", "_SMMINTRIN_H_INCLUDED",
    "_NMMINTRIN_H_INCLUDED", "_WMMINTRIN_H_INCLUDED", "_IMMINTRIN_H_INCLUDED",
    "_X86INTRIN_H_INCLUDED"]

/-- The tolerances that an operating system needs. -/
def needed : OperatingSystem → List Tolerance
  | .linux => []
  | .darwin => [missingQsortR, unsupportedAlignment]
  | .windows => [missingQsortS, missingClock] ++ intrinsicGuards.map suppressedHeader

/-- The option that turns a tolerance on. -/
def option : Tolerance → String
  | missingQsortR | missingQsortS | missingClock => "-ignore-link-errors"
  | unsupportedAlignment => "-ignore-unsupported-alignment"
  | suppressedHeader guard => "-D" ++ guard

end Tolerance

/-- The options of the transpiler for one target. -/
structure Invocation where
  packageName : String
  standard : String
  tolerances : List Tolerance
  input : Path
  output : Path
deriving DecidableEq, Repr

/-- The file that the source for `target` is generated into. -/
def Settings.outputPath (settings : Settings) (directory : Path) (target : Target) : Path :=
  directory /
    (settings.outputStem ++ "_" ++ target.key ++ "." ++ settings.outputExtension)

namespace Invocation

/-- The options for `target`. -/
def assemble (target : Target) (input directory : Path) (settings : Settings) : Invocation :=
  { packageName := settings.packageName
    standard := settings.standard
    tolerances := Tolerance.needed target.system
    input := input
    output := settings.outputPath directory target }

/-- The options for `target`, which its shape has to support. -/
def build (target : Target) (shape : Shape) (input directory : Path) (settings : Settings) :
    Except TargetError Invocation :=
  match shape.check target with
  | .error e => .error e
  | .ok () => .ok (assemble target input directory settings)

/-- The arguments with `option` behind them, unless it is among them already. -/
def addOption (args : List String) (option : String) : List String :=
  if args.contains option then args else args ++ [option]

/-- The arguments of the transpiler. Tolerances may share an option, which is given once. -/
def args (invocation : Invocation) : List String :=
  (invocation.tolerances.map Tolerance.option).foldl addOption
      ["--package-name", invocation.packageName, invocation.standard] ++
    [invocation.input.text, "-o", invocation.output.text]

end Invocation

end CrossGen
