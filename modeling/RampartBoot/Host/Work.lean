import RampartBoot.Host.Artifact
import RampartBoot.Host.Cli

/-! # Commands without their streams

A command works on the files, then prints at most one text, and it may end with an error after
that. What it does before it prints depends on no stream.
-/

namespace RampartBoot.Host
open Foundation Format

variable {P ρ : Type}

def generateReport (shell : Shell P) (role : String) (path : P) (keyId : Vector UInt8 8) :
    String :=
  "wrote " ++ shell.display path ++ "\nrole " ++ role ++
    "\nalgorithm ECDSA_P256_SHA256\nkey_id 0x" ++ keyIdHex keyId ++ "\n"

def publicReport (shell : Shell P) (path : P) (keyId : Vector UInt8 8) : String :=
  "wrote " ++ shell.display path ++ "\nkey_id 0x" ++ keyIdHex keyId ++ "\n"

def signReport (shell : Shell P) (output : P) (image : ParsedImage) : String :=
  "wrote " ++ shell.display output ++ "\nartifact_id " ++ image.manifest.artifactId ++
    "\nkey_id 0x" ++ keyIdHex image.manifest.keyId ++ "\n"

section Work
variable [DecidableEq P] (c : KeyCrates ρ) (shell : Shell P)

def workImage : ImageCommand P → Prog (Machine P ρ) String (String × Option String)
  | .inspect artifact => do
    let s ← get
    let bytes ← readArtifact shell s.1 artifact
    let report ← inspectImage c.toCrates bytes
    pure (report, none)
  | .verify args => do
    let s ← get
    let bytes ← readArtifact shell s.1 args.artifact
    let deviceTarget ← imageVerifyTarget args
    let report ← verifyImage c.toCrates bytes ⟨deviceTarget, args.minimumSecurityEpoch⟩
    pure (formatVerificationReport report,
      if report.isValid then none else some "image verification failed")
  | .sign args => do
    let image ← onFst (signImage c.toCrates shell.toOs args.payload args.manifest args.key
      args.output args.keyId)
    pure (signReport shell args.output image, none)

def workKey : KeyCommand P → Prog (Machine P ρ) String (String × Option String)
  | .generate role output => do
    validateKeyRoleLabel role
    let keyId ← generatePrivateKey c shell.toOs output
    pure ("wrote " ++ shell.display output ++ "\nrole " ++ role ++
      "\nalgorithm ECDSA_P256_SHA256\nkey_id 0x" ++ keyId ++ "\n", none)
  | .inspect key => do
    let s ← get
    let report ← inspectPrivateKey c.toCrates shell.toOs s.1 key
    pure (report, none)
  | .public key output => do
    let keyId ← onFst (exportPublicKey c shell.toOs key output)
    pure ("wrote " ++ shell.display output ++ "\nkey_id 0x" ++ keyId ++ "\n", none)

/-- A command up to its text, with the error that follows the text. The commands that only fail
have no text. -/
def work : Command P → Prog (Machine P ρ) String (String × Option String)
  | .selfCheck json =>
    pure ((if json then toolStatusJson else "Rampart image format tooling available") ++ "\n", none)
  | .image command => workImage c shell command
  | .key command => workKey c shell command
  | command => run c shell command >>= fun _ => pure ("", none)

/-- The text and the error of a command. -/
def conclude (spoken : String × Option String) : Prog (Machine P ρ) String Unit := do
  print shell spoken.1
  match spoken.2 with
  | some error => exit error
  | none => pure ()

/-- The end of a run that has a text and perhaps an error behind it. -/
def concluded (command : Command P) (text : String) (error : Option String) (s : Machine P ρ) :
    Exit × Machine P ρ :=
  if shell.Prints s text then
    match error with
    | some error => eprintln shell command ("error: " ++ error) 2 (s.printed text)
    | none => (.code 0, s.printed text)
  else panicked shell command .print
    (s.printed (front (shell.stdoutTakes s.2.stdout text) text))

end Work

section Streams
variable {shell : Shell P} {command : Command P} {s t : Machine P ρ} {text : String}
  {error : Option String}

theorem conclude_none (text : String) :
    conclude (ρ := ρ) shell (text, none) = print shell text := by
  unfold conclude
  exact bind_pure_unit

theorem conclude_some (text e : String) : conclude (ρ := ρ) shell (text, some e) =
    print shell text >>= fun _ => liftM (exit e : Checked String Unit) := rfl

theorem front_of_le {n : ℕ} (h : text.length ≤ n) : front n text = text := by
  rw [front, List.take_of_length_le h, String.ofList_toList]

theorem print_eq (text : String) (s : Machine P ρ) : print shell text s =
    if shell.Prints s text then .ok () (s.printed text)
    else .error (.fault .print)
      (s.printed (front (shell.stdoutTakes s.2.stdout text) text)) := by
  change (if shell.Prints s text then pure () else liftM (fault .print : Checked String Unit) :
    Prog (Machine P ρ) String Unit) _ = _
  split_ifs with hprints
  · rw [front_of_le hprints]
    rfl
  · rfl

theorem conclude_eq (text : String) (error : Option String) (s : Machine P ρ) :
    conclude shell (text, error) s = if shell.Prints s text then
      match error with
      | some e => .error (.ret e) (s.printed text)
      | none => .ok () (s.printed text)
    else .error (.fault .print)
      (s.printed (front (shell.stdoutTakes s.2.stdout text) text)) := by
  change EStateM.bind (print shell text) _ s = _
  rw [EStateM.bind, print_eq]
  split_ifs
  · cases error <;> rfl
  · rfl

theorem eprintln_files (text : String) (code : UInt8) :
    (eprintln shell command text code s).2.1 = s.1 := by
  unfold eprintln
  dsimp only
  split_ifs <;> rfl

theorem concluded_files : (concluded shell command text error s).2.1 = s.1 := by
  unfold concluded
  split_ifs
  · cases error with
    | none => rfl
    | some e => exact eprintln_files _ _
  · rfl

/-- A line on the error stream and the code two, or a panic because the stream fails. -/
theorem eprintln_cases (shell : Shell P) (command : Command P) (text : String)
    (s : Machine P ρ) :
    shell.Eprints s (text ++ "\n") ∧
        eprintln shell command text 2 s = (.code 2, s.eprinted (text ++ "\n")) ∨
      ¬ shell.Eprints s (text ++ "\n") ∧
        (eprintln shell command text 2 s).1 = .panic .print := by
  unfold eprintln
  by_cases h : shell.Eprints s (text ++ "\n")
  · refine .inl ⟨h, ?_⟩
    simp only [if_pos h, front_of_le h]
  · refine .inr ⟨h, ?_⟩
    simp only [if_neg h, panicked]

theorem eprintln_ne_zero : (eprintln shell command text 2 s).1 ≠ .code 0 := by
  rcases eprintln_cases shell command text s with ⟨-, h⟩ | ⟨-, h⟩ <;> rw [h] <;> simp

theorem eprintln_stdout : (eprintln shell command text 2 s).2.2.stdout = s.2.stdout := by
  unfold eprintln
  dsimp only
  split_ifs <;> rfl

theorem concluded_of_prints (h : shell.Prints s text) :
    concluded shell command text none s = (.code 0, s.printed text) := if_pos h

theorem concluded_none_ne_two : (concluded shell command text none s).1 ≠ .code 2 := by
  by_cases h : shell.Prints s text
  · rw [concluded_of_prints h]
    simp
  · unfold concluded
    rw [if_neg h, panicked]
    simp

theorem concluded_some_of_prints {e : String} (h : shell.Prints s text) :
    concluded shell command text (some e) s =
      eprintln shell command ("error: " ++ e) 2 (s.printed text) := if_pos h

theorem concluded_of_not_prints (h : ¬ shell.Prints s text) :
    (concluded shell command text error s).1 = .panic .print := by
  unfold concluded
  rw [if_neg h, panicked]

theorem concluded_of_heard (h : ∀ f, (concluded shell command text error s).1 ≠ .panic f) :
    (concluded shell command text error s).1 = .code (if error = none then 0 else 2) ∧
      (concluded shell command text error s).2.2.stdout = s.2.stdout ++ text := by
  by_cases hprints : shell.Prints s text
  · cases error with
    | none =>
      rw [concluded_of_prints hprints]
      exact ⟨rfl, rfl⟩
    | some e =>
      rw [concluded_some_of_prints hprints] at h ⊢
      refine ⟨?_, eprintln_stdout⟩
      rcases eprintln_cases shell command ("error: " ++ e) (s.printed text) with
        ⟨-, hcode⟩ | ⟨-, hpanic⟩
      · exact congrArg Prod.fst hcode
      · exact absurd hpanic (h _)
  · exact absurd (concluded_of_not_prints hprints) (h _)

theorem concluded_eq_zero_iff : concluded shell command text error s = (.code 0, t) ↔
    error = none ∧ shell.Prints s text ∧ t = s.printed text := by
  by_cases h : shell.Prints s text
  · cases error with
    | none =>
      rw [concluded_of_prints h]
      simp [h, eq_comm]
    | some e =>
      rw [concluded_some_of_prints h]
      exact iff_of_false (fun heq => eprintln_ne_zero (congrArg Prod.fst heq)) (by simp)
  · refine iff_of_false (fun heq => ?_) (fun hand => h hand.2.1)
    have hpanic : (concluded shell command text error s).1 = .panic .print :=
      concluded_of_not_prints h
    rw [heq] at hpanic
    cases hpanic

end Streams

section Rules
variable [DecidableEq P] {c : KeyCrates ρ} {shell : Shell P} {command : Command P}
  {s t : Machine P ρ}

theorem runImage_eq (command : ImageCommand P) :
    runImage c shell command = workImage c shell command >>= conclude shell := by
  cases command with
  | inspect artifact => simp only [runImage, workImage, bind_assoc, pure_bind, conclude_none]
  | sign args =>
    simp only [runImage, workImage, bind_assoc, pure_bind, conclude_none]
    rfl
  | verify args =>
    simp only [runImage, workImage, bind_assoc, pure_bind]
    refine bind_congr fun s => bind_congr fun bytes => bind_congr fun target =>
      bind_congr fun report => ?_
    by_cases hvalid : report.isValid = true
    · rw [if_pos hvalid, conclude_none]
      simp only [hvalid, rejectIf]
      exact bind_pure_unit
    · rw [if_neg hvalid, conclude_some]
      simp only [hvalid, rejectIf]
      rfl

theorem runKey_eq (command : KeyCommand P) :
    runKey c shell command = workKey c shell command >>= conclude shell := by
  cases command with
  | generate role output =>
    simp only [runKey, workKey, bind_assoc, pure_bind, conclude_none]
    rfl
  | inspect key => simp only [runKey, workKey, bind_assoc, pure_bind, conclude_none]
  | «public» key output =>
    simp only [runKey, workKey, bind_assoc, pure_bind, conclude_none]
    rfl

variable (c shell) in
/-- A run is the work of its command, then its text and its error. -/
theorem run_eq (command : Command P) :
    run c shell command = work c shell command >>= conclude shell := by
  cases command with
  | selfCheck json =>
    rw [work, pure_bind, conclude_none]
    cases json <;> rfl
  | image command => exact runImage_eq command
  | key command => exact runKey_eq command
  | bundle | trust | manifest | simulate | device | journal | recovery => rfl

theorem run_of_work_ok {spoken : String × Option String}
    (h : work c shell command s = .ok spoken t) :
    run c shell command s = conclude shell spoken t := by
  rw [run_eq]
  change EStateM.bind (work c shell command) _ s = _
  rw [EStateM.bind, h]

theorem run_of_work_error {stop : Stop String} (h : work c shell command s = .error stop t) :
    run c shell command s = .error stop t := by
  rw [run_eq]
  change EStateM.bind (work c shell command) _ s = _
  rw [EStateM.bind, h]

variable (c shell command s) in
/-- How a run ends, by what its work comes to. -/
theorem main_eq : main c shell command s = match work c shell command s with
    | .ok (text, error) t => concluded shell command text error t
    | .error (.ret e) t => eprintln shell command ("error: " ++ e) 2 t
    | .error (.fault f) t => panicked shell command f t := by
  unfold main
  rcases hwork : work c shell command s with ⟨⟨text, error⟩, t⟩ | ⟨stop, t⟩
  · rw [run_of_work_ok hwork, conclude_eq]
    dsimp only [concluded]
    by_cases hprints : shell.Prints t text
    · simp only [if_pos hprints]
      cases error <;> rfl
    · simp only [if_neg hprints]
  · rw [run_of_work_error hwork]
    cases stop <;> rfl

def left {σ ε α : Type} : EStateM.Result ε σ α → σ
  | .ok _ t => t
  | .error _ t => t

/-- The streams have no part in what becomes of the files. -/
theorem main_files : (main c shell command s).2.1 = (left (work c shell command s)).1 := by
  rw [main_eq]
  rcases work c shell command s with ⟨⟨text, error⟩, t⟩ | ⟨e | f, t⟩
  · exact concluded_files
  · exact eprintln_files _ _
  · rfl

variable (c shell) in
theorem work_withStreams (out err : String → String → ℕ) (command : Command P) :
    work c (shell.withStreams out err) command = work c shell command := by
  cases command with
  | selfCheck json => rfl
  | image command => cases command <;> rfl
  | key command => cases command <;> rfl
  | bundle command | trust command | manifest command | journal command | recovery command =>
    cases command <;> rfl
  | simulate command | device command => cases command <;> rfl

theorem main_eq_zero_iff : main c shell command s = (.code 0, t) ↔
    ∃ text u, work c shell command s = .ok (text, none) u ∧ shell.Prints u text ∧
      t = u.printed text := by
  rw [main_eq]
  rcases work c shell command s with ⟨⟨text, error⟩, u⟩ | ⟨e | f, u⟩
  · refine concluded_eq_zero_iff.trans ?_
    simp only [EStateM.Result.ok.injEq, Prod.mk.injEq]
    constructor
    · rintro ⟨rfl, hprints, rfl⟩
      exact ⟨text, u, ⟨⟨rfl, rfl⟩, rfl⟩, hprints, rfl⟩
    · rintro ⟨_, _, ⟨⟨rfl, rfl⟩, rfl⟩, hprints, rfl⟩
      exact ⟨rfl, hprints, rfl⟩
  · exact iff_of_false (fun h => eprintln_ne_zero (congrArg Prod.fst h)) (by simp)
  · exact iff_of_false (fun h => by cases h) (by simp)

theorem main_of_wps {Q : String × Option String → Machine P ρ → Prop}
    {E : String → Machine P ρ → Prop} (h : wps (work c shell command) Q E s) :
    (∃ text error t, work c shell command s = .ok (text, error) t ∧
        main c shell command s = concluded shell command text error t ∧ Q (text, error) t) ∨
      ∃ e t, work c shell command s = .error (.ret e) t ∧
        main c shell command s = eprintln shell command ("error: " ++ e) 2 t ∧ E e t := by
  have hmain := main_eq c shell command s
  unfold wps at h
  rcases hwork : work c shell command s with ⟨⟨text, error⟩, t⟩ | ⟨e | f, t⟩ <;>
    rw [hwork] at h hmain
  · exact .inl ⟨text, error, t, rfl, hmain, h⟩
  · exact .inr ⟨e, t, rfl, hmain, h⟩
  · exact h.elim

end Rules

end RampartBoot.Host
