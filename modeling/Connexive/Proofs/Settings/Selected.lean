import Connexive.Proofs.Folder
import Connexive.Proofs.Outcome
import Connexive.Settings.Load
import Mathlib.Logic.Basic

namespace Connexive

/-! Settings from a file come from the one file that is selected: the named one, or the first of the
usual ones. Two folders that hold the same file there give the same settings, the same refusal and
the same log, whatever else they hold. Where no file is, a named path gives the default settings,
unless one of its names is too long to be looked up.
-/

namespace Settings

variable {read : DocumentReader} {folder first second : Folder} {choice : Option String}
  {path text : String} {absent : List LogRecord}

theorem ofPath_of_text (found : folder.text? path = some text) :
    ofPath read folder path absent = ofText read path text := by
  rw [ofPath, Folder.text?_eq_some_iff.mp found]

theorem ofPath_of_long_name (long : folder.entry path = .nameTooLong) :
    ofPath read folder path absent = ⟨.error (.file (.nameTooLong path)), []⟩ := by
  rw [ofPath, long]

theorem ofPath_of_nothing (nothing : folder.text? path = none)
    (plain : folder.entry path ≠ .folder) (short : folder.entry path ≠ .nameTooLong) :
    ofPath read folder path absent = ⟨.ok default, absent⟩ := by
  rw [ofPath]
  cases entry : folder.entry path with
  | file text => exact absurd entry (Folder.text?_eq_none_iff.mp nothing text)
  | folder => contradiction
  | nameTooLong => contradiction
  | missing | belowFile => rfl

/-- The paths at which a file may be selected, the preferred one first. -/
def candidates : Option String → List String
  | some named => [Path.normalise named]
  | none => usualFiles

/-- The file from which the settings come, with its path. -/
def selected? (folder : Folder) (choice : Option String) : Option (String × String) :=
  (candidates choice).findSome? fun path => (folder.text? path).map (path, ·)

theorem selected?_named (folder : Folder) (named : String) :
    selected? folder (some named) =
      (folder.text? (Path.normalise named)).map (Path.normalise named, ·) := by
  cases found : folder.text? (Path.normalise named) <;>
    simp [selected?, candidates, found]

/-- Among candidates that are no folders, the first that is there is the first that is a file. -/
theorem findSome?_text? (paths : List String)
    (plain : ∀ path ∈ paths, folder.entry path ≠ .folder) :
    paths.findSome? (fun path => (folder.text? path).map (path, ·)) =
      (paths.find? folder.holds).bind fun path => (folder.text? path).map (path, ·) := by
  induction paths with
  | nil => rfl
  | cons path rest restIH =>
      have here := Folder.holds_eq_isSome (plain path (by simp))
      have later := restIH fun other member => plain other (by simp [member])
      cases found : folder.text? path with
      | none =>
          rw [found] at here
          simp [here, found, later]
      | some text =>
          rw [found] at here
          simp [here, found]

theorem loadWith_of_selected (plain : ∀ path ∈ candidates choice, folder.entry path ≠ .folder)
    (selected : selected? folder choice = some (path, text)) :
    loadWith read folder choice = ofText read path text := by
  cases choice with
  | some named =>
      rw [selected?_named] at selected
      obtain ⟨held, found, same⟩ := Option.map_eq_some_iff.mp selected
      cases same
      exact ofPath_of_text found
  | none =>
      rw [selected?, findSome?_text? _ plain] at selected
      obtain ⟨first, there, held⟩ := Option.bind_eq_some_iff.mp selected
      obtain ⟨_, found, same⟩ := Option.map_eq_some_iff.mp held
      cases same
      have usual : usualFiles.find? folder.holds = some path := there
      simp only [loadWith, usual]
      exact ofPath_of_text found

/-- Whether a name is given that cannot be looked up, which is not to say that nothing is there. -/
def NameRefused (folder : Folder) (choice : Option String) : Prop :=
  ∃ named, choice = some named ∧ folder.entry (Path.normalise named) = .nameTooLong

/-- What the log tells where no file is. -/
def absentRecords : Option String → List LogRecord
  | some named =>
    [loadRecord .warning ("Config file " ++ Path.normalise named ++ " not found, using defaults"),
      noFileRecord]
  | none => [noFileRecord]

theorem not_nameRefused_of_selected (selected : selected? folder choice = some (path, text)) :
    ¬ NameRefused folder choice := by
  intro refused
  obtain ⟨named, rfl, long⟩ := refused
  simp [selected?_named, Folder.text?, long] at selected

theorem loadWith_of_nameRefused (read : DocumentReader) {named : String}
    (long : folder.entry (Path.normalise named) = .nameTooLong) :
    loadWith read folder (some named) =
      ⟨.error (.file (.nameTooLong (Path.normalise named))), []⟩ :=
  ofPath_of_long_name long

theorem loadWith_of_nothing (plain : ∀ path ∈ candidates choice, folder.entry path ≠ .folder)
    (nothing : selected? folder choice = none) (short : ¬ NameRefused folder choice) :
    loadWith read folder choice = ⟨.ok default, absentRecords choice⟩ := by
  cases choice with
  | some named =>
      rw [selected?_named, Option.map_eq_none_iff] at nothing
      exact ofPath_of_nothing nothing (plain _ (by simp [candidates]))
        fun long => short ⟨named, rfl, long⟩
  | none =>
      have missing : usualFiles.find? folder.holds = none := by
        rw [List.find?_eq_none]
        intro path member there
        have absent := List.findSome?_eq_none_iff.mp nothing path member
        rw [Option.map_eq_none_iff] at absent
        rw [Folder.holds_eq_isSome (plain path member), absent] at there
        contradiction
      simp only [loadWith, missing, absentRecords]

theorem default_iff_not_nameRefused (read : DocumentReader)
    (plain : ∀ path ∈ candidates choice, folder.entry path ≠ .folder)
    (nothing : selected? folder choice = none) :
    (loadWith read folder choice).result = .ok default ↔ ¬ NameRefused folder choice := by
  constructor
  · intro loaded refused
    obtain ⟨named, rfl, long⟩ := refused
    simp [loadWith_of_nameRefused read long] at loaded
  · intro short
    rw [loadWith_of_nothing plain nothing short]

/-- Two folders that select alike load alike, as far as both look the name up. -/
theorem loadWith_congr_iff
    (firstPlain : ∀ path ∈ candidates choice, first.entry path ≠ .folder)
    (secondPlain : ∀ path ∈ candidates choice, second.entry path ≠ .folder)
    (same : selected? first choice = selected? second choice) :
    loadWith read first choice = loadWith read second choice ↔
      (NameRefused first choice ↔ NameRefused second choice) := by
  cases selected : selected? second choice with
  | some file =>
      obtain ⟨path, text⟩ := file
      have alike := same.trans selected
      rw [loadWith_of_selected firstPlain alike, loadWith_of_selected secondPlain selected]
      simp [not_nameRefused_of_selected alike, not_nameRefused_of_selected selected]
  | none =>
      have alike := same.trans selected
      constructor
      · intro equal
        have firstDefault := default_iff_not_nameRefused read firstPlain alike
        rw [equal, default_iff_not_nameRefused read secondPlain selected] at firstDefault
        exact (not_iff_not.mp firstDefault).symm
      · intro agree
        by_cases refused : NameRefused first choice
        · obtain ⟨named, rfl, long⟩ := refused
          obtain ⟨_, same, secondLong⟩ := agree.mp ⟨named, rfl, long⟩
          cases same
          rw [loadWith_of_nameRefused read long, loadWith_of_nameRefused read secondLong]
        · rw [loadWith_of_nothing firstPlain alike refused,
            loadWith_of_nothing secondPlain selected fun long => refused (agree.mpr long)]

/-- The document in a text, whatever line breaks the text has. -/
def document (read : DocumentReader) (text : String) : Except Yaml.Fault Value :=
  read (String.ofList (Text.normaliseBreaks text.toList))

theorem ofText_of_malformed (malformed : document read text = .error .malformed) :
    (ofText read path text).result = .ok default := by
  rw [document] at malformed
  rw [ofText, malformed]

theorem ofText_of_value {value : Value} (readable : document read text = .ok value) :
    (ofText read path text).result = (ofDocument path value).mapError .settings := by
  rw [document] at readable
  rw [ofText, readable]

theorem ofDocument_object (source : String) (fields : List (String × Value)) :
    ofDocument source (.object fields) = validate source (.object fields) := by
  cases fields with
  | nil => rfl
  | cons field rest => rfl

theorem ofDocument_other {source : String} {value : Value} (truthy : value.truthy = true)
    (other : ∀ fields, value ≠ .object fields) :
    ofDocument source value = .error (.notAMapping source) := by
  unfold ofDocument
  rw [if_pos truthy]
  cases value with
  | object fields => exact absurd rfl (other fields)
  | _ => rfl

theorem ofDocument_falsy {source : String} {value : Value} (falsy : value.truthy = false) :
    ofDocument source value = .ok default := by
  unfold ofDocument
  rw [if_neg (by simp [falsy])]

/-- Whatever reads the documents: folders that select the same file give the same settings or
refusal and the same log, and where none is selected the settings are the default ones. In both
parts a name has to be short enough to be looked up, and there only. The settings of a selected file
are those of its document. -/
theorem load_of_selected_file (read : DocumentReader) :
    (∀ (first second : Folder) (choice : Option String),
      (∀ path ∈ candidates choice, first.entry path ≠ .folder) →
      (∀ path ∈ candidates choice, second.entry path ≠ .folder) →
      selected? first choice = selected? second choice →
      (loadWith read first choice = loadWith read second choice ↔
        (NameRefused first choice ↔ NameRefused second choice))) ∧
    ∀ (folder : Folder) (choice : Option String),
      (∀ path ∈ candidates choice, folder.entry path ≠ .folder) →
      (selected? folder choice = none →
        ((loadWith read folder choice).result = .ok default ↔ ¬ NameRefused folder choice)) ∧
      ∀ path text, selected? folder choice = some (path, text) →
        (document read text = .error .malformed →
          (loadWith read folder choice).result = .ok default) ∧
        ∀ value, document read text = .ok value →
          (value.truthy = false → (loadWith read folder choice).result = .ok default) ∧
          (value.truthy = true → (∀ fields, value ≠ .object fields) →
            (loadWith read folder choice).result = .error (.settings (.notAMapping path))) ∧
          ∀ fields, value = .object fields →
            (loadWith read folder choice).result =
              (validate path (.object fields)).mapError .settings := by
  refine ⟨fun first second choice => loadWith_congr_iff, ?_⟩
  intro folder choice plain
  refine ⟨default_iff_not_nameRefused read plain, ?_⟩
  intro path text selected
  rw [loadWith_of_selected plain selected]
  refine ⟨ofText_of_malformed, ?_⟩
  intro value readable
  rw [ofText_of_value readable]
  refine ⟨?_, ?_, ?_⟩
  · intro falsy
    rw [ofDocument_falsy falsy]
    rfl
  · intro truthy other
    rw [ofDocument_other truthy other]
    rfl
  · intro fields same
    rw [same, ofDocument_object]

/-- The same usual file is selected beside different ones, and a named file that is missing is not
made up for by a usual one. -/
theorem load_of_usual_and_missing_file :
    let first : Folder := .ofFiles [("config.json", "["), ("finitelogic.yml", "- a")]
    let second : Folder := .ofFiles [("finitelogic.yml", "- a"), ("notes", "- b")]
    selected? first none = some ("finitelogic.yml", "- a") ∧
      selected? second none = some ("finitelogic.yml", "- a") ∧
      loadWith Yaml.load first none = loadWith Yaml.load second none ∧
      (loadWith Yaml.load first none).result =
        .error (.settings (.notAMapping "finitelogic.yml")) ∧
      selected? first (some "absent") = none ∧
      (loadWith Yaml.load first (some "absent")).result = .ok default := by
  intro first second
  have firstPlain : ∀ path ∈ candidates none, first.entry path ≠ .folder := by decide +kernel
  have secondPlain : ∀ path ∈ candidates none, second.entry path ≠ .folder := by decide +kernel
  have firstSelected : selected? first none = some ("finitelogic.yml", "- a") := by decide +kernel
  have secondSelected : selected? second none = some ("finitelogic.yml", "- a") := by
    decide +kernel
  have shape : (document Yaml.load "- a").toOption.map (fun value => (value.truthy, value.kind)) =
      some (true, "list") := by decide +kernel
  obtain ⟨value, found, isList⟩ := Option.map_eq_some_iff.mp shape
  obtain ⟨truthy, kind⟩ := Prod.mk.inj isList
  have readable : document Yaml.load "- a" = .ok value := toOption_eq_some_iff.mp found
  have noMapping (fields : List (String × Value)) : value ≠ .object fields := by
    intro same
    simp [same, Value.kind] at kind
  have absentPlain : ∀ path ∈ candidates (some "absent"), first.entry path ≠ .folder := by
    decide +kernel
  have nothing : selected? first (some "absent") = none := by decide +kernel
  have short : first.entry (Path.normalise "absent") ≠ .nameTooLong := by decide +kernel
  obtain ⟨alike, single⟩ := load_of_selected_file Yaml.load
  obtain ⟨_, loaded⟩ := single first none firstPlain
  obtain ⟨defaults, _⟩ := single first (some "absent") absentPlain
  refine ⟨firstSelected, secondSelected, ?_, ?_, nothing, ?_⟩
  · exact (alike first second none firstPlain secondPlain
      (firstSelected.trans secondSelected.symm)).mpr (by simp [NameRefused])
  · exact ((loaded _ _ firstSelected).2 value readable).2.1 truthy noMapping
  · exact (defaults nothing).mpr (by simpa [NameRefused] using short)

theorem load_of_longName {name : String} (longName : Path.LongName name) (folder : Folder) :
    (∀ path ∈ candidates (some name), folder.entry path ≠ .folder) ∧
      selected? folder (some name) = none ∧
      (load folder (some name)).result = .error (.file (.nameTooLong name)) := by
  have normal := longName.normalise_eq
  have long := longName.entry_eq folder
  refine ⟨?_, ?_, ?_⟩
  · simp [candidates, normal, long]
  · simp [selected?_named, normal, Folder.text?, long]
  · have looked : folder.entry (Path.normalise name) = .nameTooLong := by rw [normal, long]
    rw [load, loadWith_of_nameRefused Yaml.load looked, normal]

/-- A name of 256 letters is refused, though nothing at all is there. -/
theorem load_refuses_overlong_name :
    let name := String.ofList (List.replicate 256 'x')
    (∀ path ∈ candidates (some name), (Folder.ofFiles []).entry path ≠ .folder) ∧
      selected? (Folder.ofFiles []) (some name) = none ∧
      (load (Folder.ofFiles []) (some name)).result ≠ .ok default := by
  intro name
  have longName : Path.LongName name := .of_letters (by decide)
  obtain ⟨plain, nothing, refused⟩ := load_of_longName longName (Folder.ofFiles [])
  refine ⟨plain, nothing, ?_⟩
  rw [refused]
  simp

end Settings

end Connexive
