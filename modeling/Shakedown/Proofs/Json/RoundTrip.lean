import Shakedown.Console.Summary
import Shakedown.Json.Decode
import Shakedown.Json.Encode
import Shakedown.Proofs.Json.Reader
import Shakedown.Proofs.Text.Encoding

/-!
# Values of a run survive their JSON text

Each reader undoes the writer of its type, so a value is read back from the tree of its document.
With what is known of written documents this reaches down to the text: whatever layout a report, a
list of planned stages or a plan is written in, it comes back unchanged.

A value has no document only if a path in it is not text.
-/

set_option autoImplicit false

namespace Shakedown

open Json

/-- The reader of compile options undoes their writer. -/
theorem CompileFlags.undoes_toJson : Undoes CompileFlags.read CompileFlags.toJson := by
  intro flags
  cases flags <;> rfl

/-- The reader of modules undoes their writer. -/
theorem ModuleEntry.undoes_toJson : Undoes ModuleEntry.read ModuleEntry.toJson := by
  intro m
  rw [ModuleEntry.toJson, Value.doc, ModuleEntry.read,
    readEntries_once field "source" rfl rfl (undoes_text m.source),
    readEntries_once field "enabled" rfl rfl (undoes_bool m.enabled),
    readEntries_once field "flags" rfl rfl (CompileFlags.undoes_toJson m.flags)]
  rfl

/-- A path is read from the text that it was written as. -/
theorem Path.read_text (s : String) : Path.read (Value.text s).doc = .ok (.ofString s) :=
  rfl

/-- A plan is written if its project directory is text. -/
theorem Plan.toJson_eq_ok {p : Plan} {v : Value} :
    p.toJson = .ok v ↔ ∃ dir, p.projectDir = .ofString dir ∧
      v = .object [("project_dir", .text dir), ("build_tool", .text p.buildTool),
        ("reference_compiler", .text p.referenceCompiler),
        ("modules", .list (p.modules.map ModuleEntry.toJson))] := by
  simp only [← Path.writable_eq_ok, toJson]
  cases p.projectDir.writable <;> simp [eq_comm]

/-- A plan that is written is read back. -/
theorem Plan.read_toJson {p : Plan} {v : Value} (h : p.toJson = .ok v) :
    Plan.read v.doc = .ok p := by
  obtain ⟨dir, hdir, rfl⟩ := toJson_eq_ok.1 h
  rw [Value.doc, Plan.read, readEntries_once field "project_dir" rfl rfl (Path.read_text dir),
    readEntries_once field "build_tool" rfl rfl (undoes_text p.buildTool),
    readEntries_once field "reference_compiler" rfl rfl (undoes_text p.referenceCompiler),
    readEntries_once field "modules" rfl rfl (ModuleEntry.undoes_toJson.list p.modules), ← hdir]
  rfl

/-! ## The compiler under test -/

/-- The name of a compiler is read back. -/
theorem Compiler.readName_toJson (c : Compiler) : readName c.toJson.doc = .ok c.program := by
  rw [toJson, Value.doc, readName, readEntries_once _ "compiler" rfl rfl (undoes_text c.program)]
  rfl

/-- A compiler is read where its name is; a name that is blank has none. -/
theorem Compiler.read_eq_ok {d : Doc} {c : Compiler} :
    Compiler.read d = .ok c ↔ readName d = .ok c.program := by
  unfold Compiler.read
  rw [bind_eq_ok]
  constructor
  · rintro ⟨name, hname, hc⟩
    cases hcheck : ofString name with
    | error e => simp [hcheck] at hc
    | ok c' =>
      rw [hcheck] at hc
      obtain rfl : c' = c := Except.ok.inj hc
      rw [hname, ofString_eq_ok.1 hcheck]
  · intro hname
    exact ⟨c.program, hname, by rw [c.ofString_program]; rfl⟩

/-- The reader of compilers undoes their writer. -/
theorem Compiler.undoes_toJson : Undoes Compiler.read Compiler.toJson :=
  fun c => read_eq_ok.2 c.readName_toJson

/-! ## Stages -/

/-- The number of a pass is read back. -/
theorem Stage.readPass_int (pass : UInt8) :
    Stage.readPass (Value.int pass.toNat).doc = .ok pass := by
  have hlt := pass.toNat_lt
  have hmax : 255 ≤ significandLimit := by decide
  rw [Stage.readPass, readInteger_int "u8" (by omega) (by omega) (by omega) (by omega)]
  simp [Except.map]

/-- The number of a pass has a value at any depth. -/
theorem Stage.hasValue_pass (pass : UInt8) (depth : Nat) :
    (Value.int pass.toNat).doc.hasValue depth = true := by
  have hlt := pass.toNat_lt
  have hmax : 255 ≤ significandLimit := by decide
  exact hasValue_int (by omega) (by omega) depth

/-- The reader of stages undoes their writer, whatever encloses the stage. -/
theorem Stage.undoes_toJson (enclosing : Nat) : Undoes (Stage.read enclosing) Stage.toJson := by
  intro stage
  cases stage with
  | clean =>
    rw [Stage.toJson, Stage.read, readTagged_object (by decide) (by simp) (by simp)]
    rfl
  | referenceBuild pass =>
    -- What stands beside a tag is kept until the tag is known, and read then.
    rw [Stage.toJson, Stage.read,
      readTagged_object (by decide) (by simp) (by simpa using hasValue_pass pass _)]
    simp [bind, Except.bind, pure, Except.pure, Beside.field_entries (readPass_int pass)]
  | compile module =>
    rw [Stage.toJson, Stage.read,
      readTagged_object (by decide) (by simp) (by simp [Value.doc, Doc.hasValue])]
    simp [bind, Except.bind, pure, Except.pure, Beside.field_entries (undoes_text module)]
  | test =>
    rw [Stage.toJson, Stage.read, readTagged_object (by decide) (by simp) (by simp)]
    rfl

/-- The reader of environment pairs undoes their writer. -/
theorem undoes_pair : Undoes readPair fun (key, value) => .list [.text key, .text value] :=
  fun _ => rfl

/-- Invocations are read back, the environment also where it is empty and left out. -/
theorem Invocation.undoes_toJson : Undoes Invocation.read Invocation.toJson := by
  intro i
  obtain ⟨program, args, env⟩ := i
  rw [toJson]
  split
  · next henv =>
    subst henv
    rw [List.append_nil, Value.doc, Invocation.read,
      readEntries_once field "program" rfl rfl (undoes_text program),
      readEntries_once field "args" rfl rfl (undoes_text.list args)]
    rfl
  · rw [List.cons_append, List.cons_append, List.nil_append, Value.doc, Invocation.read,
      readEntries_once field "program" rfl rfl (undoes_text program),
      readEntries_once field "args" rfl rfl (undoes_text.list args),
      readEntries_once field "env" rfl rfl (undoes_pair.list env)]
    rfl

/-- The reader of planned stages undoes their writer. -/
theorem PlannedStage.undoes_toJson (enclosing : Nat) :
    Undoes (PlannedStage.read enclosing) PlannedStage.toJson := by
  intro p
  rw [toJson, Value.doc, PlannedStage.read,
    readEntries_once (field enclosing) "stage" rfl rfl (Stage.undoes_toJson _ p.stage),
    readEntries_once (field enclosing) "invocation" rfl rfl
      (Invocation.undoes_toJson p.invocation)]
  rfl

/-! ## Reports -/

/-- An exit code or its absence is read back, and has a value. -/
theorem StageOutcome.readCode_exitCode (code : Option Int32) (depth : Nat) :
    readOptional readCode (exitCodeToJson code).doc = .ok code ∧
      (exitCodeToJson code).doc.hasValue depth = true := by
  cases code with
  | none => exact ⟨rfl, rfl⟩
  | some code =>
    have hlow := code.le_toInt
    have hhigh := code.toInt_lt
    have hmin : -(twoTo 63 : Int) ≤ -2147483648 := by decide
    have hmax : 2147483647 ≤ significandLimit := by decide
    have hread : readCode (Value.int code.toInt).doc = .ok code := by
      rw [readCode, readInteger_int "i32" (by omega) (by omega) (by omega) (by omega)]
      simp [Except.map]
    exact ⟨readOptional_scalar (by simp) hread, hasValue_int (by omega) (by omega) depth⟩

/-- The reader of outcomes undoes their writer, whatever encloses the outcome. -/
theorem StageOutcome.undoes_toJson (enclosing : Nat) :
    Undoes (StageOutcome.read enclosing) StageOutcome.toJson := by
  intro outcome
  cases outcome with
  | succeeded =>
    rw [toJson, StageOutcome.read, readTagged_object (by decide) (by simp) (by simp)]
    rfl
  | failed code =>
    obtain ⟨hcode, hvalue⟩ := readCode_exitCode code (nestingLimit - enclosing - 1)
    rw [toJson, StageOutcome.read, readTagged_object (by decide) (by simp) (by simpa using hvalue)]
    simp [bind, Except.bind, pure, Except.pure, Beside.field_entries hcode]
  | spawnFailed error =>
    rw [toJson, StageOutcome.read,
      readTagged_object (by decide) (by simp) (by simp [Value.doc, Doc.hasValue])]
    simp [bind, Except.bind, pure, Except.pure, Beside.field_entries (undoes_text error)]
  | skipped =>
    rw [toJson, StageOutcome.read, readTagged_object (by decide) (by simp) (by simp)]
    rfl

/-- A duration is read back, up to the greatest one. -/
theorem readDuration_int (ms : UInt64) : readDuration (Value.int ms.toNat).doc = .ok ms := by
  have hlt := ms.toNat_lt
  have hmax : significandLimit = 18446744073709551615 := by decide
  rw [readDuration, readInteger_int "u64" (by omega) (by omega) (by omega) (by omega)]
  simp [Except.map]

/-- A field that is left out when it is absent becomes known when it is not. -/
theorem readEntries_optionalField {γ : Type} (field : String → Option (FieldUpdate γ))
    (key : String) {known : γ} {s : Option String} {more : List (String × Value)}
    {get : γ → Option (Option String)} {put : γ → Option String → γ}
    (hfield : field key = some (once key (readOptional readText) get put))
    (hget : get known = none) :
    readEntries field known (Value.fieldDocs (optionalField key s ++ more)) true =
      readEntries field (s.elim known fun t => put known (some t)) (Value.fieldDocs more) true := by
  cases s with
  | none => rfl
  | some t =>
    have hread : readOptional readText (Value.text t).doc = .ok (some t) := rfl
    rw [optionalField, List.singleton_append, readEntries_once field key hfield hget hread]
    rfl

/-- Records are read back, captured output that is absent or empty included. -/
theorem StageRecord.undoes_toJson (enclosing : Nat) :
    Undoes (StageRecord.read enclosing) StageRecord.toJson := by
  intro r
  obtain ⟨stage, invocation, outcome, durationMs, stdout, stderr⟩ := r
  -- The empty list behind the last field makes that field one of those with more behind them.
  rw [toJson, List.append_assoc, ← List.append_nil (optionalField "stderr" stderr), Value.doc]
  simp only [List.cons_append, List.nil_append]
  rw [StageRecord.read,
    readEntries_once (field enclosing) "stage" rfl rfl (Stage.undoes_toJson _ stage),
    readEntries_once (field enclosing) "invocation" rfl rfl (Invocation.undoes_toJson invocation),
    readEntries_once (field enclosing) "outcome" rfl rfl (StageOutcome.undoes_toJson _ outcome),
    readEntries_once (field enclosing) "duration_ms" rfl rfl (readDuration_int durationMs),
    readEntries_optionalField (field enclosing) "stdout" rfl rfl,
    readEntries_optionalField (field enclosing) "stderr" rfl (by cases stdout <;> rfl)]
  cases stdout <;> cases stderr <;> rfl

/-- The reader of failure policies undoes their writer. -/
theorem FailurePolicy.undoes_toJson : Undoes FailurePolicy.read FailurePolicy.toJson := by
  intro policy
  cases policy <;> rfl

/-- A report is written if its project directory is text. -/
theorem Report.toJson_eq_ok {r : Report} {v : Value} :
    r.toJson = .ok v ↔ ∃ dir, r.projectDir = .ofString dir ∧
      v = .object [("compiler", .text r.compiler), ("project_dir", .text dir),
        ("policy", r.policy.toJson), ("stages", .list (r.stages.map StageRecord.toJson))] := by
  simp only [← Path.writable_eq_ok, toJson]
  cases r.projectDir.writable <;> simp [eq_comm]

/-- A report that is written is read back. -/
theorem Report.read_toJson {r : Report} {v : Value} (h : r.toJson = .ok v) :
    Report.read v.doc = .ok r := by
  obtain ⟨dir, hdir, rfl⟩ := toJson_eq_ok.1 h
  rw [Value.doc, Report.read, readEntries_once field "compiler" rfl rfl (undoes_text r.compiler),
    readEntries_once field "project_dir" rfl rfl (Path.read_text dir),
    readEntries_once field "policy" rfl rfl (FailurePolicy.undoes_toJson r.policy),
    readEntries_once field "stages" rfl rfl ((StageRecord.undoes_toJson 2).list r.stages), ← hdir]
  rfl

/-! ## Whole texts -/

/-- A value survives JSON text if it is written exactly when all its paths are text, and read back
from every layout in which it is written. -/
structure Survives {α : Type} (write : α → Except WriteError Value) (read : Reader α)
    (paths : α → List Path) (a : α) : Prop where
  /-- It is written if every path is text, and only then. -/
  written : (∃ v, write a = .ok v) ↔ ∀ p ∈ paths a, ∃ s, p = .ofString s
  /-- It is read back from a single line. -/
  compact : ∀ v, write a = .ok v → readWhole read v.toCompact = .ok a
  /-- It is read back from several lines. -/
  pretty : ∀ v, write a = .ok v → readWhole read v.toPretty = .ok a
  /-- It is read back from what is printed. -/
  printed : ∀ v, write a = .ok v → readWhole read (line v.toPretty) = .ok a

/-- A text is read as a value if it is the whole text of a document and the value is read from
that. -/
theorem readWhole_of_parse {α : Type} {read : Reader α} {text : String} {v : Value} {a : α}
    (hparse : parse text = (v.doc, true)) (hread : read v.doc = .ok a) :
    readWhole read text = .ok a := by
  rw [readWhole_eq_ok, hparse]
  exact ⟨rfl, hread⟩

/-- A value that is read back from its document survives. -/
theorem survives_of_read {α : Type} {write : α → Except WriteError Value} {read : Reader α}
    {paths : α → List Path} {a : α}
    (hwritten : (∃ v, write a = .ok v) ↔ ∀ p ∈ paths a, ∃ s, p = .ofString s)
    (hread : ∀ v, write a = .ok v → read v.doc = .ok a) : Survives write read paths a where
  written := hwritten
  compact v h := readWhole_of_parse v.parse_toCompact (hread v h)
  pretty v h := readWhole_of_parse v.parse_toPretty (hread v h)
  printed v h := readWhole_of_parse v.parse_toPretty_newline (hread v h)

/-- Every report, every list of planned stages and every plan survives JSON text. -/
theorem documents_survive :
    (∀ r : Report, Survives Report.toJson Report.read (fun r => [r.projectDir]) r) ∧
      (∀ stages : List PlannedStage, Survives (fun stages => .ok (PlannedStage.listToJson stages))
        PlannedStage.readMany (fun _ => []) stages) ∧
      ∀ p : Plan, Survives Plan.toJson Plan.read (fun p => [p.projectDir]) p := by
  refine ⟨fun r => ?_, fun stages => ?_, fun p => ?_⟩
  · refine survives_of_read ?_ fun v => Report.read_toJson
    simp [Report.toJson_eq_ok]
  · refine survives_of_read (by simp) fun v h => ?_
    obtain rfl := Except.ok.inj h
    exact (PlannedStage.undoes_toJson 1).list stages
  · refine survives_of_read ?_ fun v => Plan.read_toJson
    simp [Plan.toJson_eq_ok]

end Shakedown
