/-
How a check ends.

* `conclusion`, `check_eq`: a check in four steps;
* `AllReturn`: no rule breaks down that a check calls;
* `Obstacle`: what keeps a record from being checked, and what is said about it;
* `Obstacle.of_check_error`, `Obstacle.check_ne_ok`: a check fails iff there is an
  obstacle;
* `errorText`, `Reports`: what stands on the two outputs;
* `LogFilter.write_quiet`: nothing is logged for those who want it quiet;
* `check_spec`: the exit code and both outputs of a check, and how they depend on its
  options.
-/
import RecordRules.CommandLine.Logger
import RecordRules.CommandLine.Run
import RecordRules.Proofs.Configuration.Applying
import RecordRules.Proofs.Engine.Running
import RecordRules.Proofs.Json.Reading

namespace RecordRules

/-! ### Engines and records that are read -/

/-- The engine of configuration files. -/
lemma Engine.reachable_of_ofFiles {registry : Registry} {files : Files} {paths : List String} {engine : Engine}
    (loaded : ofFiles registry files paths = .ok engine) : engine.Reachable ∧ engine.registry = registry := by
  obtain ⟨configuration, -, applied⟩ := bind_eq_ok_iff.mp loaded
  have configured := mapError_eq_ok_iff.mp applied
  refine ⟨(Reachable.ofRegistry registry).configure configured, ?_⟩
  obtain ⟨additions, -, done⟩ := bind_eq_ok_iff.mp configured
  cases done
  exact registry_foldl_changeField Addition.addTo additions _

/-- A text is a record iff it is a JSON object. -/
lemma Record.ofString_eq_ok_iff {text : String} {record : Record} :
    ofString text = .ok record ↔ Json.ofString? text = some (.object record) := by
  rw [ofString]
  constructor
  · intro read
    split at read
    · cases read
    · next found =>
      cases read
      exact found
    · cases read
  · intro found
    rw [found]

/-! ### The log -/

/-- **Nothing is logged for those who want it quiet**, if no directive is about some
modules only. -/
theorem LogFilter.write_quiet {filter : LogFilter}
    (general : ∀ directive ∈ filter.directives, directive.prefixOfTarget = "") (line : LogLine) :
    filter.write .quiet line = "" := by
  have none_left : filter.directives.filter (·.prefixOfTarget ≠ "") = [] :=
    List.filter_eq_nil_iff.mpr fun directive mem => by simpa using general directive mem
  have refused : (filter.withRank 0).admits line = false := by
    rw [withRank, none_left]
    cases line with
    | mk level => cases level <;> rfl
  rw [write, withVerbosity, refused]
  rfl

namespace CommandLine

variable {registry : Registry} {console : Console} {verbosity : Verbosity} {options : CheckOptions}

/-! ### The steps of a check -/

/-- The outcome of a check that was carried out. -/
def conclusion (console : Console) (options : CheckOptions) (next : Engine) (result : Option Record) : Outcome :=
  match result with
  | some sanitized => ⟨.valid, recordText sanitized, ""⟩
  | none => ⟨.invalid, Failure.report options.format console.outputInColor next.failures, ""⟩

/-- A check loads an engine, reads a record, and runs. -/
lemma check_eq (registry : Registry) (console : Console) (options : CheckOptions) :
    check registry console options =
      ((Engine.ofFiles registry console.files options.configurations).mapError .load >>= fun engine =>
        inputRecord console options >>= fun record =>
          ((engine.run console.surroundings record options.checksUnknown).mapError .stopped).map
            fun (next, result) => conclusion console options next result) := by
  have concluded : ∀ ran : Except CommandFault (Engine × Option Record),
      (ran >>= fun (next, result) => match result with
        | some sanitized => .ok ⟨.valid, recordText sanitized, ""⟩
        | none => .ok ⟨.invalid, Failure.report options.format console.outputInColor next.failures, ""⟩) =
      ran.map fun (next, result) => conclusion console options next result := by
    rintro (_ | ⟨next, _ | sanitized⟩) <;> rfl
  rw [check, inputRecord]
  cases Engine.ofFiles registry console.files options.configurations with
  | error fault => rfl
  | ok engine =>
    cases inputText console options.input with
    | error fault => rfl
    | ok text =>
      change (Record.ofString text).mapError CommandFault.noRecord >>= _ =
        (Record.ofString text).mapError CommandFault.noRecord >>= _
      congr 1
      funext record
      exact concluded _

/-- All that a check does which is carried out. -/
lemma exists_of_check {outcome : Outcome} (done : check registry console options = .ok outcome) :
    ∃ engine record next result,
      Engine.ofFiles registry console.files options.configurations = .ok engine ∧
      inputRecord console options = .ok record ∧
      engine.run console.surroundings record options.checksUnknown = .ok (next, result) ∧
      outcome = conclusion console options next result := by
  rw [check_eq] at done
  obtain ⟨engine, loaded, done⟩ := bind_eq_ok_iff.mp done
  obtain ⟨record, read, done⟩ := bind_eq_ok_iff.mp done
  obtain ⟨⟨next, result⟩, ran, rfl⟩ := map_eq_ok_iff.mp done
  exact ⟨engine, record, next, result, mapError_eq_ok_iff.mp loaded, read, mapError_eq_ok_iff.mp ran, rfl⟩

/-! ### Obstacles -/

/-- Every rule returns that a check calls. -/
def AllReturn (registry : Registry) (console : Console) (options : CheckOptions) : Prop :=
  ∀ engine record, Engine.ofFiles registry console.files options.configurations = .ok engine →
    inputRecord console options = .ok record → engine.RulesReturn console.surroundings record

/-- All rules return in a check that is carried out. -/
lemma AllReturn.of_check {outcome : Outcome} (done : check registry console options = .ok outcome) :
    AllReturn registry console options := by
  intro engine record loaded read
  obtain ⟨engine', record', next, result, loaded', read', ran, -⟩ := exists_of_check done
  rw [loaded] at loaded'
  rw [read] at read'
  cases loaded'
  cases read'
  exact .of_run (Engine.reachable_of_ofFiles loaded).1.nodup_fields ran

/-- What keeps a record from being checked, and what is said about it: a file that cannot be
read or holds no configuration, an input that cannot be read or is no JSON object, and a
field of the record with a sanitization that stands for nothing. -/
inductive Obstacle (registry : Registry) (console : Console) (options : CheckOptions) : String → Prop where
  | unreadableConfiguration {path : String} {fault : FileFault} (mem : path ∈ options.configurations)
      (failed : console.files path = .error fault) :
      Obstacle registry console options ("Failed to read config file " ++ path ++ ": " ++ fault.message)
  | malformed {path text : String} {fault : ConfigurationFault} (mem : path ∈ options.configurations)
      (read : console.files path = .ok text)
      (failed : (if Configuration.isJsonPath path then Configuration.ofJson text else Configuration.ofYaml text) =
        .error fault)
      (other : ∀ defects, fault ≠ .defective defects) :
      Obstacle registry console options
        ("Failed to parse config file " ++ path ++ ": " ++ console.words.configuration fault text)
  | defective {path text : String} {defects : List Configuration.Defect} (mem : path ∈ options.configurations)
      (read : console.files path = .ok text)
      (failed : (if Configuration.isJsonPath path then Configuration.ofJson text else Configuration.ofYaml text) =
        .error (.defective defects)) :
      Obstacle registry console options
        ("Failed to parse config file " ++ path ++ ": " ++
          ("Invalid field configuration:\n" ++ String.intercalate "\n" (defects.map Configuration.Defect.message)))
  | unreadableInput {path : String} {fault : FileFault} (named : options.input = some path)
      (failed : console.files path = .error fault) :
      Obstacle registry console options ("Failed to read input file " ++ path ++ ": " ++ fault.message)
  | unreadableStandardInput {fault : FileFault} (unnamed : options.input = none)
      (failed : console.standardInput = .error fault) :
      Obstacle registry console options ("Failed to read from stdin: " ++ fault.message)
  | notJson {text : String} (read : inputText console options.input = .ok text)
      (other : Json.ofString? text = none) :
      Obstacle registry console options ("Input is not valid JSON: " ++ console.words.json text)
  | notAnObject {text : String} {value : Json} (read : inputText console options.input = .ok text)
      (found : Json.ofString? text = some value) (other : ∀ members, value ≠ .object members) :
      Obstacle registry console options ("Input must be a JSON object, got " ++ value.kindName)
  | unknown {engine : Engine} {record : Record} {id : String} {field : FieldRules} {rule : Rule}
      (loaded : Engine.ofFiles registry console.files options.configurations = .ok engine)
      (read : inputRecord console options = .ok record) (configured : (id, field) ∈ engine.fields)
      (present : id ∈ record.keys) (own : rule ∈ field.sanitizations)
      (missing : ∀ resolved, registry.sanitizer rule.name rule.arguments ≠ .ok resolved) :
      Obstacle registry console options
        ("Sanitization failed: " ++ ("Sanitization filter " ++ Text.lowerString rule.name ++ " does not exist."))

namespace Obstacle

/-- A file without a configuration is an obstacle. -/
lemma of_ofFile_error {path : String} (mem : path ∈ options.configurations) {fault : LoadFault}
    (failed : Configuration.ofFile console.files path = .error fault) :
    Obstacle registry console options (fault.message console.words) := by
  rw [Configuration.ofFile] at failed
  cases read : console.files path with
  | error file_fault =>
    rw [read] at failed
    cases failed
    exact .unreadableConfiguration mem read
  | ok text =>
    rw [read] at failed
    obtain ⟨text_fault, refused, rfl⟩ := mapError_eq_error_iff.mp failed
    cases text_fault with
    | defective defects => exact .defective mem read refused
    | malformedJson => exact .malformed mem read refused (by rintro _ ⟨⟩)
    | misshapenJson => exact .malformed mem read refused (by rintro _ ⟨⟩)
    | malformedYaml => exact .malformed mem read refused (by rintro _ ⟨⟩)
    | misshapenYaml => exact .malformed mem read refused (by rintro _ ⟨⟩)

/-- An input that cannot be read is an obstacle. -/
lemma of_inputText_error {fault : CommandFault} (failed : inputText console options.input = .error fault) :
    Obstacle registry console options (fault.message console.words) ∧ fault.status = .faulty := by
  cases named : options.input with
  | some path =>
    rw [named] at failed
    obtain ⟨_, unreadable, rfl⟩ := mapError_eq_error_iff.mp failed
    exact ⟨.unreadableInput named unreadable, rfl⟩
  | none =>
    rw [named] at failed
    obtain ⟨_, unreadable, rfl⟩ := mapError_eq_error_iff.mp failed
    exact ⟨.unreadableStandardInput named unreadable, rfl⟩

/-- No record is read only if the input cannot be read or is no JSON object. -/
lemma of_inputRecord_error {fault : CommandFault} (failed : inputRecord console options = .error fault) :
    Obstacle registry console options (fault.message console.words) ∧ fault.status = .faulty := by
  rcases bind_eq_error_iff.mp failed with unreadable | ⟨text, read, failed⟩
  · exact of_inputText_error unreadable
  · obtain ⟨_, no_record, rfl⟩ := mapError_eq_error_iff.mp failed
    refine ⟨?_, rfl⟩
    rw [Record.ofString] at no_record
    split at no_record
    · next other =>
      cases no_record
      exact .notJson read other
    · cases no_record
    · next value other found =>
      cases no_record
      exact .notAnObject read found other

/-- **A check that is not carried out meets an obstacle.** -/
lemma of_check_error (returns : AllReturn registry console options) {fault : CommandFault}
    (failed : check registry console options = .error fault) :
    Obstacle registry console options (fault.message console.words) ∧ fault.status = .faulty := by
  rw [check_eq] at failed
  rcases bind_eq_error_iff.mp failed with unloaded | ⟨engine, loaded, failed⟩
  · obtain ⟨_, load_failed, rfl⟩ := mapError_eq_error_iff.mp unloaded
    obtain ⟨path, mem, failed⟩ := Configuration.exists_path_of_ofFiles load_failed
    exact ⟨of_ofFile_error mem failed, rfl⟩
  · have loaded := mapError_eq_ok_iff.mp loaded
    rcases bind_eq_error_iff.mp failed with unread | ⟨record, read, failed⟩
    · exact of_inputRecord_error unread
    · obtain ⟨_, stopped, rfl⟩ := mapError_eq_error_iff.mp (map_eq_error_iff.mp failed)
      obtain ⟨reached, rfl⟩ := Engine.reachable_of_ofFiles loaded
      rcases (returns engine record loaded read).run_cases reached.nodup_fields with
        ⟨rule, first, unresolved⟩ | ⟨-, out, failures, -, -, done⟩
      · rw [unresolved] at stopped
        cases stopped
        obtain ⟨id, field, configured, present, own, lacks⟩ :=
          Engine.mem_unresolved_iff.mp (List.mem_of_head? first)
        exact ⟨.unknown loaded read configured present own (Registry.lacks_iff.mp lacks), rfl⟩
      · rw [done] at stopped
        cases stopped

lemma ofFile_of_text {files : Files} {path text : String} {fault : ConfigurationFault} (read : files path = .ok text)
    (failed : (if Configuration.isJsonPath path then Configuration.ofJson text else Configuration.ofYaml text) =
      .error fault) : Configuration.ofFile files path = .error (.faulty path text fault) := by
  rw [Configuration.ofFile, read]
  exact mapError_eq_error_iff.mpr ⟨fault, failed, rfl⟩

/-- A file that cannot be read, or holds no configuration, makes no engine. -/
lemma ofFile_ne_ok {path : String} {fault : LoadFault} (mem : path ∈ options.configurations)
    (failed : Configuration.ofFile console.files path = .error fault) {engine : Engine}
    (loaded : Engine.ofFiles registry console.files options.configurations = .ok engine) : False := by
  obtain ⟨_, found⟩ := Configuration.exists_ofFiles_iff.mp ⟨engine, loaded⟩ _ mem
  rw [failed] at found
  cases found

/-- A check with an obstacle is not carried out. -/
lemma check_ne_ok {message : String} (h : Obstacle registry console options message)
    (outcome : Outcome) : check registry console options ≠ .ok outcome := by
  intro done
  obtain ⟨engine, record, next, result, loaded, read, ran, -⟩ := exists_of_check done
  obtain ⟨text, text_read, is_record⟩ := bind_eq_ok_iff.mp read
  have is_object := Record.ofString_eq_ok_iff.mp (mapError_eq_ok_iff.mp is_record)
  cases h with
  | @unreadableConfiguration path fault mem failed =>
    have no_text : Configuration.ofFile console.files path = .error (.unreadable path fault) := by
      rw [Configuration.ofFile, failed]
    exact ofFile_ne_ok mem no_text loaded
  | malformed mem file_read failed => exact ofFile_ne_ok mem (ofFile_of_text file_read failed) loaded
  | defective mem file_read failed => exact ofFile_ne_ok mem (ofFile_of_text file_read failed) loaded
  | unreadableInput named failed =>
    rw [named] at text_read
    have found := mapError_eq_ok_iff.mp text_read
    rw [failed] at found
    cases found
  | unreadableStandardInput unnamed failed =>
    rw [unnamed] at text_read
    have found := mapError_eq_ok_iff.mp text_read
    rw [failed] at found
    cases found
  | notJson read other =>
    rw [text_read] at read
    cases read
    rw [other] at is_object
    cases is_object
  | notAnObject read found other =>
    rw [text_read] at read
    cases read
    rw [is_object] at found
    exact other record (Option.some.inj found).symm
  | unknown loaded' read' configured present own missing =>
    rw [loaded] at loaded'
    rw [read] at read'
    cases loaded'
    cases read'
    obtain ⟨-, rfl⟩ := Engine.reachable_of_ofFiles loaded
    obtain ⟨out, -, sanitized, -⟩ := Engine.exists_of_run ran
    have unresolved := Engine.mem_unresolved_iff.mpr
      ⟨_, _, configured, present, own, Registry.lacks_iff.mpr missing⟩
    rw [Engine.unresolved, Engine.unresolvedIn_eq_nil sanitized] at unresolved
    cases unresolved

end Obstacle

/-! ### Texts -/

/-- What is said about a fault, the first word in bold red if colours are shown. -/
def errorText (inColor : Bool) (message : String) : String :=
  (if inColor then "\x1b[1m\x1b[31m" ++ "error:" ++ "\x1b[39m\x1b[0m" else "error:") ++ " " ++ message ++ "\n"

/-- A text writes a value by the grammar of JSON, and it is read back as the value if the value
is plain. -/
structure Writes (value : Json) (text : String) : Prop where
  spells : Json.Spells value text.toList
  read_back : Json.Plain Json.maxDepth value → Json.ofString? text = some value

/-- What a JSON report holds for each failure. -/
def reportedMembers (failure : Failure) : List (String × Json) :=
  [("field", .string failure.field), ("value", .string failure.value), ("rule_name", .string failure.ruleName),
   ("arguments", .array (failure.arguments.map .string)), ("kind", .string failure.kind.name),
   ("message", .string failure.message)]

/-- A text reports failures: a line for each of them, in which the field is bold yellow if
colours are shown, or a JSON array with an object for each of them. -/
inductive Reports (inColor : Bool) (failures : List Failure) : ReportFormat → String → Prop where
  | text : Reports inColor failures .text
      (String.join (failures.map fun failure =>
        (if inColor then "\x1b[1m\x1b[33m" ++ failure.field ++ "\x1b[39m\x1b[0m" else failure.field) ++ ": " ++
          failure.message ++ "\n"))
  | json {output : String}
      (spells : Json.Spells (.array (failures.map fun failure => .object (reportedMembers failure))) output.toList)
      (read_back : Json.ofString? output =
        some (.array (failures.map fun failure => .object (reportedMembers failure)))) :
      Reports inColor failures .json output

/-- The text of a value over several lines, with a line break behind, writes the value. -/
lemma writes_pretty (value : Json) : Writes value (value.pretty ++ "\n") := by
  have blank : Json.Blanks ['\n'] := List.forall_mem_singleton.mpr (.inr (.inr (.inl rfl)))
  have written := (Json.spells_prettyChars 0 value).padRight blank
  have same : (value.pretty ++ "\n").toList = value.prettyChars 0 ++ ['\n'] := by
    rw [Json.pretty, String.toList_append, String.toList_ofList]
    rfl
  rw [← same] at written
  exact ⟨written, Json.ofString?_of_spells written⟩

/-- A JSON report has only texts, on three levels. -/
lemma plain_report (failures : List Failure) :
    Json.Plain Json.maxDepth (.array (failures.map fun failure => .object (reportedMembers failure))) := by
  refine .array (List.forall_mem_map.mpr fun failure _ => ?_)
  have nodup : ["field", "value", "rule_name", "arguments", "kind", "message"].Nodup := by decide
  refine .object nodup fun member mem => ?_
  simp only [reportedMembers, List.mem_cons, List.not_mem_nil, or_false] at mem
  rcases mem with rfl | rfl | rfl | rfl | rfl | rfl
  case inr.inr.inr.inl => exact .array (List.forall_mem_map.mpr fun argument _ => .string)
  all_goals exact .string

lemma reports_report (format : ReportFormat) (inColor : Bool) (failures : List Failure) :
    Reports inColor failures format (Failure.report format inColor failures) := by
  cases format with
  | text => exact .text
  | json =>
    have writes := writes_pretty (.array (failures.map Failure.toJson))
    exact .json writes.spells (writes.read_back (plain_report failures))

/-! ### The log -/

/-- Nothing is written for a log that is off. -/
lemma join_map_eq_empty {logger : LogLine → String} (off : ∀ line, logger line = "") (lines : List LogLine) :
    String.join (lines.map logger) = "" := by
  rw [funext off]
  induction lines with
  | nil => rfl
  | cons line lines ih => simpa [String.join] using ih

/-! ### Outcomes -/

/-- What a check says in the log. -/
def checkLogText (registry : Registry) (console : Console) (verbosity : Verbosity) (options : CheckOptions) : String :=
  String.join ((checkLog registry console options).map (console.logger verbosity))

/-- The exit code of a check. -/
def checkCode (registry : Registry) (console : Console) (verbosity : Verbosity) (options : CheckOptions) : Nat :=
  (runCommand registry console ⟨verbosity, .check options⟩).status.code

lemma runCommand_of_ok {outcome : Outcome} (done : check registry console options = .ok outcome) :
    runCommand registry console ⟨verbosity, .check options⟩ =
      { outcome with complaint := checkLogText registry console verbosity options ++ outcome.complaint } := by
  rw [runCommand]
  dsimp only
  rw [done]
  rfl

lemma runCommand_of_error {fault : CommandFault} (failed : check registry console options = .error fault) :
    runCommand registry console ⟨verbosity, .check options⟩ =
      ⟨fault.status, "", checkLogText registry console verbosity options ++
        errorText console.complaintInColor (fault.message console.words)⟩ := by
  rw [runCommand]
  dsimp only
  rw [failed]
  rfl

/-- A check that is carried out tells whether the run recorded failures. -/
lemma conclusion_of_run {engine next : Engine} {record : Record} {result : Option Record}
    (ran : engine.run console.surroundings record options.checksUnknown = .ok (next, result)) :
    (next.failures = [] → ∃ sanitized, engine.sanitize record = .ok sanitized ∧
        conclusion console options next result = ⟨.valid, recordText sanitized, ""⟩) ∧
      (next.failures ≠ [] → conclusion console options next result =
        ⟨.invalid, Failure.report options.format console.outputInColor next.failures, ""⟩) := by
  obtain ⟨out, failures, sanitized, -, rfl, rfl⟩ := Engine.exists_of_run ran
  constructor
  · intro clean
    rw [if_pos clean]
    exact ⟨out, sanitized, rfl⟩
  · intro some_failure
    rw [if_neg some_failure]
    rfl

lemma complaint_conclusion {next : Engine} {result : Option Record} :
    (conclusion console options next result).complaint = "" := by
  cases result <;> rfl

lemma code_conclusion {next : Engine} {result : Option Record} :
    (conclusion console options next result).status.code ≠ 2 := by
  cases result with
  | none => exact (by decide : Status.invalid.code ≠ 2)
  | some sanitized => exact (by decide : Status.valid.code ≠ 2)

/-- A check meets an obstacle, or it is carried out. -/
lemma runCommand_cases (verbosity : Verbosity) (returns : AllReturn registry console options) :
    (∃ message, Obstacle registry console options message ∧
        runCommand registry console ⟨verbosity, .check options⟩ =
          ⟨.faulty, "", checkLogText registry console verbosity options ++
            errorText console.complaintInColor message⟩) ∨
      (∀ message, ¬ Obstacle registry console options message) ∧ ∃ engine record next result,
        Engine.ofFiles registry console.files options.configurations = .ok engine ∧
        inputRecord console options = .ok record ∧
        engine.run console.surroundings record options.checksUnknown = .ok (next, result) ∧
        runCommand registry console ⟨verbosity, .check options⟩ =
          { conclusion console options next result with
            complaint := checkLogText registry console verbosity options } := by
  cases ended : check registry console options with
  | error fault =>
    obtain ⟨obstacle, faulty⟩ := Obstacle.of_check_error returns ended
    refine .inl ⟨_, obstacle, ?_⟩
    rw [runCommand_of_error ended, faulty]
  | ok outcome =>
    obtain ⟨engine, record, next, result, loaded, read, done, rfl⟩ := exists_of_check ended
    refine .inr ⟨fun _ obstacle => obstacle.check_ne_ok _ ended, engine, record, next, result, loaded, read,
      done, ?_⟩
    rw [runCommand_of_ok ended, complaint_conclusion, String.append_empty]

/-- The exit code of a check, by its steps. -/
lemma checkCode_eq (registry : Registry) (console : Console) (verbosity : Verbosity) (options : CheckOptions) :
    checkCode registry console verbosity options =
      match Engine.ofFiles registry console.files options.configurations, inputRecord console options with
      | .ok engine, .ok record =>
        match engine.run console.surroundings record options.checksUnknown with
        | .ok (_, result) => if result.isSome then 0 else 1
        | .error fault => (CommandFault.stopped fault).status.code
      | _, _ => 2 := by
  rw [checkCode]
  cases loaded : Engine.ofFiles registry console.files options.configurations with
  | error fault =>
    have failed : check registry console options = .error (.load fault) := by
      rw [check_eq, loaded]
      rfl
    rw [runCommand_of_error failed]
    rfl
  | ok engine =>
    cases read : inputRecord console options with
    | error fault =>
      have failed : check registry console options = .error fault := by
        rw [check_eq, loaded, read]
        rfl
      obtain ⟨_, faulty⟩ : Obstacle registry console options _ ∧ _ := Obstacle.of_inputRecord_error read
      rw [runCommand_of_error failed, faulty]
      rfl
    | ok record =>
      have steps : check registry console options =
          ((engine.run console.surroundings record options.checksUnknown).mapError .stopped).map
            fun (next, result) => conclusion console options next result := by
        rw [check_eq, loaded, read]
        rfl
      dsimp only
      cases ran : engine.run console.surroundings record options.checksUnknown with
      | error fault =>
        rw [ran] at steps
        rw [runCommand_of_error steps]
      | ok after =>
        obtain ⟨next, result⟩ := after
        rw [ran] at steps
        rw [runCommand_of_ok steps]
        cases result with
        | none => rfl
        | some sanitized => rfl

/-- Neither the format of the report nor the log changes the exit code. -/
lemma checkCode_format (verbosity verbosity' : Verbosity) (format : ReportFormat) :
    checkCode registry console verbosity' { options with format := format } =
      checkCode registry console verbosity options := by
  rw [checkCode_eq, checkCode_eq]
  rfl

/-- Failures for unknown fields change the exit code only if there are no others. -/
lemma checkCode_checksUnknown (verbosity verbosity' : Verbosity) (returns : AllReturn registry console options)
    (unchecked : options.checksUnknown = false) :
    checkCode registry console verbosity' { options with checksUnknown := true } =
        checkCode registry console verbosity options ∨
      checkCode registry console verbosity options = 0 ∧
        checkCode registry console verbosity' { options with checksUnknown := true } = 1 := by
  have same_input : inputRecord console { options with checksUnknown := true } = inputRecord console options := rfl
  rw [checkCode_eq, checkCode_eq, same_input, unchecked]
  cases loaded : Engine.ofFiles registry console.files options.configurations with
  | error fault => exact .inl rfl
  | ok engine =>
    cases read : inputRecord console options with
    | error fault => exact .inl rfl
    | ok record =>
      have nodup := (Engine.reachable_of_ofFiles loaded).1.nodup_fields
      dsimp only
      rcases (returns engine record loaded read).run_cases nodup with
        ⟨rule, -, failed⟩ | ⟨-, out, failures, -, -, done⟩
      · rw [failed true, failed false]
        exact .inl rfl
      · rw [done true, done false]
        by_cases clean : engine.recorded failures out false = []
        · by_cases known : engine.recorded failures out true = []
          · left
            rw [if_pos clean, if_pos known]
          · right
            rw [if_pos clean, if_neg known]
            exact ⟨rfl, rfl⟩
        · have reported : engine.recorded failures out true ≠ [] := fun none =>
            clean (List.append_eq_nil_iff.mp none).1
          left
          rw [if_neg clean, if_neg reported]

/-- **How a check ends.** If no rule breaks down, the exit code of a check is 2 exactly if
there is an obstacle; then there is no output, and the line about an obstacle stands behind
the log. Otherwise there is nothing but the log there, which is empty if it is off. The exit
code is 0 if the run recorded no failure, and the output writes the sanitized record; it is 1
if the run did, and the output reports the failures. The format of the report does not change
the exit code, and the check for unknown fields changes it at most from 0 to 1. -/
theorem check_spec {arguments : List String} {verbosity : Verbosity}
    (command : Invocation.ofArguments arguments = .ok ⟨verbosity, .check options⟩)
    (returns : AllReturn registry console options) :
    let outcome := run registry console arguments
    let log := String.join ((checkLog registry console options).map (console.logger verbosity))
    (outcome.status.code = 2 ↔ ∃ message, Obstacle registry console options message) ∧
      (outcome.status.code = 2 → outcome.output = "" ∧ ∃ message, Obstacle registry console options message ∧
        outcome.complaint = log ++ errorText console.complaintInColor message) ∧
      (outcome.status.code ≠ 2 → outcome.complaint = log ∧ ∃ engine record next result,
        Engine.ofFiles registry console.files options.configurations = .ok engine ∧
        inputRecord console options = .ok record ∧
        engine.run console.surroundings record options.checksUnknown = .ok (next, result) ∧
        (next.failures = [] → outcome.status.code = 0 ∧
          ∃ sanitized, engine.sanitize record = .ok sanitized ∧
            Writes (.object sanitized) outcome.output) ∧
        (next.failures ≠ [] → outcome.status.code = 1 ∧
          Reports console.outputInColor next.failures options.format outcome.output)) ∧
      ((∀ line, console.logger verbosity line = "") → log = "") ∧
      ∀ arguments' verbosity' options', Invocation.ofArguments arguments' = .ok ⟨verbosity', .check options'⟩ →
        (options' = { options with format := options'.format } →
          (run registry console arguments').status.code = outcome.status.code) ∧
        (options.checksUnknown = false → options' = { options with checksUnknown := true } →
          (run registry console arguments').status.code = outcome.status.code ∨
            outcome.status.code = 0 ∧ (run registry console arguments').status.code = 1) := by
  have ran : ∀ {arguments verbosity options}, Invocation.ofArguments arguments = .ok ⟨verbosity, .check options⟩ →
      run registry console arguments = runCommand registry console ⟨verbosity, .check options⟩ := by
    intro arguments verbosity options command
    rw [run, command]
  dsimp only
  rw [ran command, ← and_assoc, ← and_assoc]
  refine ⟨?_, fun off => join_map_eq_empty off _, fun arguments' verbosity' options' command' => ?_⟩
  · rcases runCommand_cases verbosity returns with
      ⟨message, obstacle, ended⟩ | ⟨free, engine, record, next, result, loaded, read, done, ended⟩
    · rw [ended]
      exact ⟨⟨iff_of_true rfl ⟨message, obstacle⟩, fun _ => ⟨rfl, message, obstacle, rfl⟩⟩,
        fun carried_out => absurd rfl carried_out⟩
    · rw [ended]
      refine ⟨⟨iff_of_false code_conclusion fun ⟨message, obstacle⟩ => free message obstacle,
        fun faulty => absurd faulty code_conclusion⟩, fun _ => ⟨rfl, engine, record, next,
          result, loaded, read, done, fun clean => ?_, fun failed => ?_⟩⟩
      · obtain ⟨sanitized, is_sanitized, concluded⟩ := (conclusion_of_run done).1 clean
        rw [concluded]
        exact ⟨rfl, sanitized, is_sanitized, writes_pretty (.object sanitized)⟩
      · rw [(conclusion_of_run done).2 failed]
        exact ⟨rfl, reports_report _ _ _⟩
  · rw [ran command']
    refine ⟨fun same => ?_, fun unchecked same => ?_⟩
    · rw [same]
      exact checkCode_format verbosity verbosity' options'.format
    · rw [same]
      exact checkCode_checksUnknown verbosity verbosity' returns unchecked

/-- A valid record with a field that no rules are configured for, when it is quiet. -/
theorem check_spec_unknown_field :
    let files : Files := fun _ =>
      .ok "\x7b\"fields\":\x7b\"name\":\x7b\"sanitizations\":\"trim\",\"validations\":\"required\"\x7d\x7d\x7d"
    let console : Console := ⟨.newYear, files, .ok "\x7b\"name\":\" x \",\"extra\":1\x7d", false, false, .plain,
      (LogFilter.ofText "warn").write⟩
    let options : CheckOptions := ⟨["a.json"], none, false, .text⟩
    let known := run .initial console ["check", "-qc", "a.json"]
    let unknown := run .initial console ["check", "-qc", "a.json", "--check-unknown"]
    Invocation.ofArguments ["check", "-qc", "a.json"] = .ok ⟨.quiet, .check options⟩ ∧
      AllReturn .initial console options ∧ (∀ message, ¬ Obstacle .initial console options message) ∧
      known.status.code = 0 ∧ known.complaint = "" ∧
      known.output = "\x7b\n  \"name\": \"x\",\n  \"extra\": 1\n\x7d\n" ∧
      unknown.status.code = 1 ∧ unknown.output = "extra: There is no validation rule for Extra\n" := by
  intro files console options known unknown
  have command : Invocation.ofArguments ["check", "-qc", "a.json"] = .ok ⟨.quiet, .check options⟩ := by
    decide +kernel
  have command' : Invocation.ofArguments ["check", "-qc", "a.json", "--check-unknown"] =
      .ok ⟨.quiet, .check { options with checksUnknown := true }⟩ := by decide +kernel
  obtain ⟨outcome, done⟩ := exists_ok_of_isOk (x := check .initial console options) (by decide +kernel)
  have returns := AllReturn.of_check done
  have valid : known.status.code = 0 := by decide +kernel
  have reported : unknown.status.code ≠ 0 := by decide +kernel
  have quiet : ∀ line, console.logger .quiet line = "" := fun line =>
    LogFilter.write_quiet (by decide) line
  obtain ⟨blocked, -, carried_out, silent, others⟩ := check_spec command returns
  refine ⟨command, returns, fun message obstacle => ?_, valid, ?_, by decide +kernel, ?_, by decide +kernel⟩
  · have faulty := blocked.mpr ⟨message, obstacle⟩
    rw [valid] at faulty
    cases faulty
  · have logged := (carried_out (by rw [valid]; decide)).1
    exact logged.trans (silent quiet)
  · rcases (others _ _ _ command').2 rfl rfl with same | ⟨-, invalid⟩
    · exact absurd (same.trans valid) reported
    · exact invalid

end CommandLine

end RecordRules
