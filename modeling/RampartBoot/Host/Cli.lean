import RampartBoot.Host.Inspection
import RampartBoot.Host.KeyFiles

/-! # The commands of the host tool

`main` runs one command, whose arguments have been parsed, and turns an error into a line on the
error stream and the exit code two.
-/

namespace RampartBoot.Host
open Foundation

variable {P ρ : Type}

structure ImageVerifyArgs (P : Type) where
  artifact : P
  minimumSecurityEpoch : UInt32
  vendorId : Option UInt32
  productId : Option UInt32
  hardwareFamily : Option UInt32
  componentId : Option UInt32
  deriving DecidableEq, Repr

structure ImageSignArgs (P : Type) where
  payload : P
  manifest : P
  key : P
  keyId : Option String
  output : P
  deriving DecidableEq, Repr

inductive ImageCommand (P : Type) where
  | inspect (artifact : P)
  | verify (args : ImageVerifyArgs P)
  | sign (args : ImageSignArgs P)
  deriving DecidableEq, Repr

inductive KeyCommand (P : Type) where
  | generate (role : String) (output : P)
  | inspect (key : P)
  | «public» (key output : P)
  deriving DecidableEq, Repr

inductive BundleCommand (P : Type) where
  | create (manifest : P)
  | inspect (bundle : P)
  | verify (bundle : P)
  deriving DecidableEq, Repr

inductive TrustCommand (P : Type) where
  | inspect (manifest : P)
  deriving DecidableEq, Repr

inductive ManifestCommand (P : Type) where
  | inspect (manifest : P)
  | validate (manifest : P)
  deriving DecidableEq, Repr

inductive SimulateCommand where
  | run (scenario : String)
  deriving DecidableEq, Repr

inductive DeviceCommand where
  | info
  | slots
  | journal
  | trust
  | recovery
  deriving DecidableEq, Repr

inductive JournalCommand (P : Type) where
  | decode (journal : P)
  deriving DecidableEq, Repr

inductive RecoveryCommand (P : Type) where
  | inspect (capsule : P)
  deriving DecidableEq, Repr

inductive Command (P : Type) where
  | selfCheck (json : Bool)
  | image (command : ImageCommand P)
  | bundle (command : BundleCommand P)
  | key (command : KeyCommand P)
  | trust (command : TrustCommand P)
  | manifest (command : ManifestCommand P)
  | simulate (command : SimulateCommand)
  | device (command : DeviceCommand)
  | journal (command : JournalCommand P)
  | recovery (command : RecoveryCommand P)
  deriving DecidableEq, Repr

/-- The operating system with the two streams of the tool. -/
structure Shell (P : Type) extends Os P where
  /-- `{:?}` of a path -/
  debugPath : P → String
  /-- `{:?}` of a text -/
  debugText : String → String
  /-- How many characters of a text standard output takes behind what it has. It fails at the
  first one that it does not take. -/
  stdoutTakes : String → String → ℕ
  /-- The same of the error stream. -/
  stderrTakes : String → String → ℕ
  /-- What the panic hook has to say. -/
  panicText : Command P → FileSystem P → Fault → String

/-- The `{:?}` of a variant with one field, whose own `{:?}` is `value`. -/
def debugVariant (name field value : String) : String :=
  name ++ " \x7b " ++ field ++ ": " ++ value ++ " \x7d"

def BundleCommand.debug (shell : Shell P) : BundleCommand P → String
  | create manifest => debugVariant "Create" "manifest" (shell.debugPath manifest)
  | inspect bundle => debugVariant "Inspect" "bundle" (shell.debugPath bundle)
  | verify bundle => debugVariant "Verify" "bundle" (shell.debugPath bundle)

def TrustCommand.debug (shell : Shell P) : TrustCommand P → String
  | inspect manifest => debugVariant "Inspect" "manifest" (shell.debugPath manifest)

def ManifestCommand.debug (shell : Shell P) : ManifestCommand P → String
  | inspect manifest => debugVariant "Inspect" "manifest" (shell.debugPath manifest)
  | validate manifest => debugVariant "Validate" "manifest" (shell.debugPath manifest)

def SimulateCommand.debug (shell : Shell P) : SimulateCommand → String
  | run scenario => debugVariant "Run" "scenario" (shell.debugText scenario)

def DeviceCommand.debug : DeviceCommand → String
  | info => "Info"
  | slots => "Slots"
  | journal => "Journal"
  | trust => "Trust"
  | recovery => "Recovery"

def JournalCommand.debug (shell : Shell P) : JournalCommand P → String
  | decode journal => debugVariant "Decode" "journal" (shell.debugPath journal)

def RecoveryCommand.debug (shell : Shell P) : RecoveryCommand P → String
  | inspect capsule => debugVariant "Inspect" "capsule" (shell.debugPath capsule)

def imageVerifyTarget (args : ImageVerifyArgs P) : Res (Option DeviceTarget) := do
  let provided := [args.vendorId.isSome, args.productId.isSome, args.hardwareFamily.isSome,
    args.componentId.isSome].countP id
  if provided = 0 then pure none
  else do
    rejectIf (provided ≠ 4)
      ("target binding verification requires --vendor-id, --product-id, --hardware-family, " ++
        "and --component-id")
    pure (some {
      vendorId := ← expect args.vendorId
      productId := ← expect args.productId
      hardwareFamily := ← expect args.hardwareFamily
      componentId := ← expect args.componentId })

def validateKeyRoleLabel (role : String) : Res Unit :=
  match role with
  | "RELEASE" | "SECURITY" | "BOOT_MANAGER" | "RECOVERY" | "FACTORY" | "DEVELOPMENT" => pure ()
  | _ => exit ("unknown key role " ++ role)

def planned (domain command : String) : Res Unit :=
  exit (domain ++ " command is defined for the final CLI but is not implemented yet: " ++ command)

def statusWord (valid : Bool) : String := if valid then "valid" else "rejected"

def formatVerificationReport (report : VerificationReport) : String :=
  formatImageReport report.image (some report.payloadDigestValid) (some report.signatureValid) ++
    ("\nPolicy Checks\n  target binding      " ++ statusWord report.targetValid ++
    "\n  security epoch      " ++ statusWord report.securityEpochValid ++
    "\n\nResult\n  " ++ (if report.isValid then "valid" else "rejected") ++ "\n")

def front (n : ℕ) (text : String) : String := String.ofList (text.toList.take n)

def Machine.printed (s : Machine P ρ) (text : String) : Machine P ρ :=
  (s.1, { s.2 with stdout := s.2.stdout ++ text })

def Machine.eprinted (s : Machine P ρ) (text : String) : Machine P ρ :=
  (s.1, { s.2 with stderr := s.2.stderr ++ text })

def Shell.withStreams (shell : Shell P) (out err : String → String → ℕ) : Shell P :=
  { shell with stdoutTakes := out, stderrTakes := err }

abbrev Shell.Prints (shell : Shell P) (s : Machine P ρ) (text : String) : Prop :=
  text.length ≤ shell.stdoutTakes s.2.stdout text

abbrev Shell.Eprints (shell : Shell P) (s : Machine P ρ) (text : String) : Prop :=
  text.length ≤ shell.stderrTakes s.2.stderr text

def Shell.StreamFails (shell : Shell P) (s : Machine P ρ) : Prop :=
  ∃ text, ¬ shell.Prints s text ∨ ¬ shell.Eprints s text

/-- `print!`, which panics if the stream fails -/
def print (shell : Shell P) (text : String) : Prog (Machine P ρ) String Unit := do
  let s ← get
  set (Machine.printed s (front (shell.stdoutTakes s.2.stdout text) text))
  if shell.Prints s text then pure () else fault (ε := String) .print

def println (shell : Shell P) (text : String) : Prog (Machine P ρ) String Unit :=
  print shell (text ++ "\n")

/-- `serde_json::to_string_pretty` of `ToolStatus::current()`. -/
def toolStatusJson : String :=
  "\x7b\n  \"tool\": \"rampart\",\n  \"status\": \"image format tooling available\",\n" ++
    "  \"implemented_checkpoint\": 3\n\x7d"

def runSelfCheck (shell : Shell P) (json : Bool) : Prog (Machine P ρ) String Unit :=
  if json then println shell toolStatusJson
  else println shell "Rampart image format tooling available"

section Run
variable [DecidableEq P] (c : KeyCrates ρ) (shell : Shell P)

def readArtifact (fs : FileSystem P) (artifact : P) : Res (List UInt8) :=
  mapErr (shell.read fs artifact) fun error =>
    "failed to read " ++ shell.display artifact ++ ": " ++ error

def runImage : ImageCommand P → Prog (Machine P ρ) String Unit
  | .inspect artifact => do
    let s ← get
    let bytes ← readArtifact shell s.1 artifact
    let report ← inspectImage c.toCrates bytes
    print shell report
  | .verify args => do
    let s ← get
    let bytes ← readArtifact shell s.1 args.artifact
    let deviceTarget ← imageVerifyTarget args
    let report ← verifyImage c.toCrates bytes ⟨deviceTarget, args.minimumSecurityEpoch⟩
    print shell (formatVerificationReport report)
    rejectIf (¬ report.isValid) "image verification failed"
  | .sign args => do
    let image ← onFst (signImage c.toCrates shell.toOs args.payload args.manifest args.key
      args.output args.keyId)
    println shell ("wrote " ++ shell.display args.output ++ "\nartifact_id " ++
      image.manifest.artifactId ++ "\nkey_id 0x" ++ keyIdHex image.manifest.keyId)

def runKey : KeyCommand P → Prog (Machine P ρ) String Unit
  | .generate role output => do
    validateKeyRoleLabel role
    let keyId ← generatePrivateKey c shell.toOs output
    println shell ("wrote " ++ shell.display output ++ "\nrole " ++ role ++
      "\nalgorithm ECDSA_P256_SHA256\nkey_id 0x" ++ keyId)
  | .inspect key => do
    let s ← get
    let report ← inspectPrivateKey c.toCrates shell.toOs s.1 key
    print shell report
  | .public key output => do
    let keyId ← onFst (exportPublicKey c shell.toOs key output)
    println shell ("wrote " ++ shell.display output ++ "\nkey_id 0x" ++ keyId)

def run : Command P → Prog (Machine P ρ) String Unit
  | .selfCheck json => runSelfCheck shell json
  | .image command => runImage c shell command
  | .bundle command => planned "bundle" (command.debug shell)
  | .key command => runKey c shell command
  | .trust command => planned "trust" (command.debug shell)
  | .manifest command => planned "manifest" (command.debug shell)
  | .simulate command => planned "simulate" (command.debug shell)
  | .device command => planned "device" command.debug
  | .journal command => planned "journal" (command.debug shell)
  | .recovery command => planned "recovery" (command.debug shell)

inductive Exit where
  | code (n : UInt8)
  | panic (f : Fault)
  deriving DecidableEq, Repr

/-- The end in a panic. The hook writes its message to the error stream as far as that takes it. -/
def panicked (command : Command P) (f : Fault) (s : Machine P ρ) : Exit × Machine P ρ :=
  let text := shell.panicText command s.1 f
  (.panic f, s.eprinted (front (shell.stderrTakes s.2.stderr text) text))

/-- `eprintln!`, which panics if the stream fails, and an exit code behind it -/
def eprintln (command : Command P) (text : String) (code : UInt8) (s : Machine P ρ) :
    Exit × Machine P ρ :=
  let line := text ++ "\n"
  let t := s.eprinted (front (shell.stderrTakes s.2.stderr line) line)
  if shell.Eprints s line then (.code code, t) else panicked shell command .print t

/-- `main`, behind the parser of the arguments -/
def main (command : Command P) (s : Machine P ρ) : Exit × Machine P ρ :=
  match run c shell command s with
  | .ok () t => (.code 0, t)
  | .error (.ret error) t => eprintln shell command ("error: " ++ error) 2 t
  | .error (.fault f) t => panicked shell command f t

/-- Commands one after the other, on the files that the ones before have left. -/
def session (commands : List (Command P)) (s : Machine P ρ) : Machine P ρ :=
  commands.foldl (fun s command => (main c shell command s).2) s

end Run

def sampleShell : Shell String where
  toOs := sampleOs
  debugPath path := "\"" ++ path ++ "\""
  debugText text := "\"" ++ text ++ "\""
  stdoutTakes _ text := text.length
  stderrTakes _ text := text.length
  panicText _ _ _ := "thread 'main' panicked\n"

def sampleSign : ImageSignArgs String :=
  ⟨"payload.bin", "manifest.toml", "release-test-key.pem", none, "firmware.rampart"⟩

def sampleMachine : Machine String Unit := (sampleFiles, ⟨(), "", ""⟩)

end RampartBoot.Host
