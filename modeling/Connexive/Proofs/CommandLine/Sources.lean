import Connexive.CommandLine.Run
import Connexive.Proofs.CommandLine.Delivery
import Connexive.Proofs.Session.Script
import Connexive.Proofs.Text.Breaks

namespace Connexive

/-! Where the commands of a run come from. A script that holds commands one on each line is cut into
these commands again, blank ones aside, and nothing but the commands decides what a run prints and
how it ends. So it does not matter which of them stand in the script and which are given as
arguments. Faults of the settings or of the script end a run before it executes anything. Whatever
reads the documents of settings, this is so.
-/

open Text (NoBreak)

variable {commands lines : List String} {text input named : String} {folder : Folder}
  {arguments : List String} {request : Request} {settings : Settings} {fault : FileFault}
  {reader : Settings.DocumentReader}

/-- A text that holds commands one on each line, the last line ended or not. -/
inductive OnePerLine : List String → String → Prop
  | nothing : OnePerLine [] ""
  | unended (command : String) : OnePerLine [command] command
  | line {rest : List String} {text : String} (command : String) (below : OnePerLine rest text) :
      OnePerLine (command :: rest) (command ++ "\n" ++ text)

namespace Text

theorem normaliseBreaks_of_no_return {chars : List Char} (noReturn : '\r' ∉ chars) :
    normaliseBreaks chars = chars := by
  fun_induction normaliseBreaks chars with
  | case1 => rfl
  | case2 rest restIH => simp at noReturn
  | case3 rest notFeed restIH => simp at noReturn
  | case4 c rest other next restIH =>
      rw [restIH fun member => noReturn (List.mem_cons_of_mem c member)]

theorem no_return_of_noBreak {chars : List Char} (noBreak : NoBreak chars) : '\r' ∉ chars :=
  fun member => Bool.false_ne_true (noBreak_iff.mp noBreak '\r' member).symm

end Text

namespace OnePerLine

theorem no_return (oneEach : OnePerLine commands text)
    (noBreaks : ∀ command ∈ commands, NoBreak command.toList) : '\r' ∉ text.toList := by
  induction oneEach with
  | nothing => exact List.not_mem_nil
  | unended command => exact Text.no_return_of_noBreak (noBreaks command List.mem_cons_self)
  | line command below belowIH =>
      obtain ⟨noBreak, noBreakBelow⟩ := List.forall_mem_cons.mp noBreaks
      have here := Text.no_return_of_noBreak noBreak
      have later := belowIH noBreakBelow
      simp [here, later]

/-- A last line that is empty and not ended is none. It gives nothing to execute either. -/
theorem speaking_lines (oneEach : OnePerLine commands text)
    (noBreaks : ∀ command ∈ commands, NoBreak command.toList) :
    (Text.lines text).filter speaks = commands.filter speaks := by
  induction oneEach with
  | nothing => rfl
  | unended command =>
      by_cases empty : command.toList = []
      · rw [String.toList_eq_nil_iff.mp empty]
        rfl
      · rw [Text.lines_of_noBreak (noBreaks command List.mem_cons_self) empty]
  | line command below belowIH =>
      obtain ⟨noBreak, noBreakBelow⟩ := List.forall_mem_cons.mp noBreaks
      rw [Text.lines_append_feed noBreak, List.filter_cons, List.filter_cons,
        belowIH noBreakBelow]

end OnePerLine

/-- The script of a request holds these commands. Without a script there are none. -/
def Request.ScriptHolds (request : Request) (folder : Folder) (commands : List String) : Prop :=
  match request.script with
  | none => commands = []
  | some named =>
    ∃ text, folder.read (Path.normalise named) = .ok text ∧ OnePerLine commands text

namespace CommandLine

/-- The settings of a run: those of the file, with debug logging if the arguments ask for it. -/
def settingsOf (request : Request) (settings : Settings) : Settings :=
  { settings with debugLogging := settings.debugLogging || request.debug }

theorem scriptLines_of_holds (holds : request.ScriptHolds folder commands)
    (noBreaks : ∀ command ∈ commands, NoBreak command.toList) :
    ∃ lines, scriptLines folder request.script = .ok lines ∧
      lines.filter speaks = commands.filter speaks := by
  unfold Request.ScriptHolds at holds
  cases script : request.script with
  | none =>
      rw [script] at holds
      exact ⟨[], rfl, holds ▸ rfl⟩
  | some named =>
      rw [script] at holds
      obtain ⟨text, read, oneEach⟩ := holds
      have sameLines := oneEach.speaking_lines noBreaks
      rw [← text.ofList_toList,
        ← Text.normaliseBreaks_of_no_return (oneEach.no_return noBreaks)] at sameLines
      refine ⟨_, ?_, sameLines⟩
      rw [scriptLines, read]
      rfl

theorem runLines_congr {other : List String} (same : other.filter speaks = lines.filter speaks)
    (settings : Settings) : runLines settings other = runLines settings lines := by
  rw [runLines, runLines, Session.runScript_congr same]

theorem code_runLines (settings : Settings) (lines : List String) :
    (runLines settings lines).code =
      if (Session.start.executed lines).any (!·.reply.ok) then 1 else 0 := by
  rw [runLines, (Session.start.runScript_reports lines).failures]
  cases failed : (Session.start.executed lines).any (!·.reply.ok) with
  | true =>
      have some := List.countP_pos_iff.mpr (List.any_eq_true.mp failed)
      simp only [if_neg some.ne', if_true]
  | false =>
      have none := List.countP_eq_zero.mpr (List.any_eq_false.mp failed)
      simp only [none, if_true, Bool.false_eq_true, if_false]

theorem run_of_finish {outcome : Outcome}
    (asked : Invocation.ofArguments arguments = .ok (.run request))
    (planned : planRequest reader folder request = .ok (.finish outcome)) (input : String) :
    runWith reader arguments folder input = .ok outcome := by
  rw [runWith, planWith, asked]
  simp only [planned]
  rfl

theorem planRequest_of_settings (valued : request.Valued)
    (loaded : (Settings.loadWith reader folder request.config).result = .ok settings) :
    planRequest reader folder request =
      runRequest folder request (settingsOf request settings) := by
  rw [planRequest, if_neg valued.config, loaded]
  rfl

theorem runRequest_of_lines (valued : request.Valued)
    (asks : request.commands ≠ [] ∨ request.script ≠ none)
    (read : scriptLines folder request.script = .ok lines) (settings : Settings) :
    runRequest folder request settings =
      .ok (.finish (runLines settings (request.commands ++ lines))) := by
  have works : ¬ (request.commands.isEmpty && request.script.isNone) = true := by
    simpa [← not_and_or] using asks
  have met : meetsNoValue request.commands = false := by
    simp [meetsNoValue, valued.commands]
  rw [runRequest, if_neg works, if_neg valued.script, read]
  simp only [met, Bool.false_eq_true, if_false]

theorem runRequest_of_fault (valued : request.Valued) (script : request.script = some named)
    (unread : folder.read (Path.normalise named) = .error fault) (noName : fault ≠ .nullCharacter)
    (settings : Settings) :
    runRequest folder request settings =
      .ok (.finish (abort (startup settings) (scriptFaultLine named fault))) := by
  have works : ¬ (request.commands.isEmpty && request.script.isNone) = true := by
    simp [script]
  have failed : scriptLines folder request.script = .error fault := by
    rw [script, scriptLines, unread]
    rfl
  rw [runRequest, if_neg works, if_neg valued.script, failed, script]
  cases fault with
  | nullCharacter => exact absurd rfl noName
  | missing | isFolder | belowFile | nameTooLong => rfl

/-- Commands without line breaks may be given as arguments up to any point and in a script behind
it. What is printed and the code are those of the commands in a new session, whatever the point.
Where the settings are refused, or the script cannot be read, nothing is executed or printed and
the code is 2. Arguments can ask for any request. -/
theorem commands_from_either_source (valued : request.Valued) (reader : Settings.DocumentReader)
    (folder : Folder) (input : String) :
    Invocation.ofArguments request.arguments = .ok (.run request) ∧
    ∀ arguments, Invocation.ofArguments arguments = .ok (.run request) →
      (∀ settings, (Settings.loadWith reader folder request.config).result = .ok settings →
        (∀ commands k, commands ≠ [] → (∀ command ∈ commands, NoBreak command.toList) →
          request.commands = commands.take k →
          request.ScriptHolds folder (commands.drop k) →
          ∃ notices, runWith reader arguments folder input =
            .ok ⟨if (Session.start.executed commands).any (!·.reply.ok) then 1 else 0,
              printLines (Session.start.runScript commands).printed, notices⟩) ∧
        ∀ named fault, request.script = some named →
          folder.read (Path.normalise named) = .error fault → fault ≠ .nullCharacter →
          runWith reader arguments folder input =
            .ok ⟨2, "", startup (settingsOf request settings) ++
              [.text (scriptFaultLine named fault)]⟩) ∧
      ∀ error, (Settings.loadWith reader folder request.config).result = .error (.settings error) →
        runWith reader arguments folder input =
          .ok ⟨2, "", [.text ("Error: " ++ error.message)]⟩ := by
  refine ⟨request.ofArguments_arguments, fun arguments asked =>
    ⟨fun settings loaded => ⟨?_, ?_⟩, fun error refused => ?_⟩⟩
  · intro commands k nonempty noBreaks given holds
    have noBreaksBelow : ∀ command ∈ commands.drop k, NoBreak command.toList :=
      fun command member => noBreaks command (List.mem_of_mem_drop member)
    obtain ⟨lines, read, spoken⟩ := scriptLines_of_holds holds noBreaksBelow
    have asks : request.commands ≠ [] ∨ request.script ≠ none := by
      by_contra! none
      obtain ⟨noCommands, noScript⟩ := none
      rw [Request.ScriptHolds, noScript] at holds
      rw [given] at noCommands
      exact nonempty (by rw [← List.take_append_drop k commands, noCommands, holds]; rfl)
    have sameSpoken : (request.commands ++ lines).filter speaks = commands.filter speaks := by
      rw [List.filter_append, spoken, given, ← List.filter_append, List.take_append_drop]
    have planned := planRequest_of_settings valued loaded
    rw [runRequest_of_lines valued asks read, runLines_congr sameSpoken] at planned
    let outcome := runLines (settingsOf request settings) commands
    refine ⟨outcome.notices, (run_of_finish asked planned input).trans ?_⟩
    rw [← code_runLines (settingsOf request settings)]
    rfl
  · intro named fault script unread noName
    have planned := planRequest_of_settings valued loaded
    rw [runRequest_of_fault valued script unread noName] at planned
    exact run_of_finish asked planned input
  · have planned : planRequest reader folder request =
        .ok (.finish (abort [] ("Error: " ++ error.message))) := by
      rw [planRequest, if_neg valued.config, refused]
    exact run_of_finish asked planned input

/-- A failure behind the split point, and a line behind the exit. -/
theorem commands_split_between_sources :
    let request : Request := ⟨none, false, ["domain add x"], some "./rest.txt"⟩
    let arguments := ["-e", "domain add x", "--script=./rest.txt"]
    let folder := Folder.ofFiles [("rest.txt", "fact y p\nexit\ndomain add y\n")]
    request.Valued ∧ Invocation.ofArguments arguments = .ok (.run request) ∧
      (∃ notices, run arguments folder "" =
        .ok ⟨1, "Object 'x' added to the domain.\nError: Object 'y' not found.\nGoodbye!\n",
          notices⟩) ∧
      ∃ notices, run arguments (Folder.ofFiles []) "" = .ok ⟨2, "", notices⟩ := by
  intro request arguments folder
  have valued : request.Valued := ⟨by decide, by decide, by decide⟩
  have asked : Invocation.ofArguments arguments = .ok (.run request) := rfl
  have oneEach : OnePerLine ["fact y p", "exit", "domain add y"]
      "fact y p\nexit\ndomain add y\n" := .line _ (.line _ (.line _ .nothing))
  have holds : request.ScriptHolds folder ["fact y p", "exit", "domain add y"] :=
    ⟨_, rfl, oneEach⟩
  have noBreaks : ∀ command ∈ ["domain add x", "fact y p", "exit", "domain add y"],
      NoBreak command.toList := by decide
  obtain ⟨_, runs⟩ := commands_from_either_source valued Yaml.load folder ""
  obtain ⟨_, runsWithout⟩ := commands_from_either_source valued Yaml.load (Folder.ofFiles []) ""
  obtain ⟨executes, _⟩ := (runs arguments asked).1 .default rfl
  obtain ⟨_, refuses⟩ := (runsWithout arguments asked).1 .default rfl
  refine ⟨valued, asked, ?_, _, refuses _ _ rfl rfl nofun⟩
  exact executes ["domain add x", "fact y p", "exit", "domain add y"] 1 (by decide) noBreaks rfl
    holds

end CommandLine

end Connexive
