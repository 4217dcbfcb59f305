import Connexive.Folder

namespace Connexive

/-! What a path finds: the text of a file, or that its name is too long to be looked up, which no
folder answers.
-/

theorem Text.split_of_notMem {separator : Char} {cs : List Char} (whole : separator ∉ cs) :
    Text.split separator cs = [cs] := by
  induction cs with
  | nil => rfl
  | cons c rest restIH =>
      rw [List.mem_cons, not_or] at whole
      rw [split, if_neg fun same => whole.1 same.symm, restIH whole.2]

/-- A single name that is longer than a name in a folder can be. -/
structure Path.LongName (name : String) : Prop where
  single : '/' ∉ name.toList
  noNull : '\x00' ∉ name.toList
  long : Path.nameLimit < name.utf8ByteSize

namespace Path.LongName

variable {name : String}

theorem parts_eq (longName : LongName name) : parts name = [name] := by
  have long := longName.long
  have notStaying : name ≠ "" ∧ name ≠ "." := by
    constructor
    · intro same
      subst same
      contradiction
    · intro same
      subst same
      contradiction
  simp [parts, Text.split_of_notMem longName.single, notStaying]

theorem root_eq (longName : LongName name) : root name = "" := by
  have single := longName.single
  unfold root
  split <;> simp_all

theorem normalise_eq (longName : LongName name) : normalise name = name := by
  have nonempty : name ≠ "" := by
    intro same
    subst same
    exact absurd longName.long (by decide)
  simp [normalise, longName.parts_eq, longName.root_eq, nonempty]

theorem beforeLongName?_eq (longName : LongName name) : beforeLongName? name = some "." := by
  have here : normalise "" = "." := by decide
  simp [beforeLongName?, longName.parts_eq, longName.root_eq, longName.long, here]

theorem entry_eq (longName : LongName name) (folder : Folder) :
    folder.entry name = .nameTooLong := by
  have noNull : ¬ name.toList.contains '\x00' = true := by simpa using longName.noNull
  have meets : folder.meetsLongName name = true := by
    have here : isOutward "." = true := by decide
    simp [Folder.meetsLongName, longName.beforeLongName?_eq, Folder.isFolder, here]
  rw [Folder.entry, if_neg noNull, if_pos (by simp [meets])]

theorem utf8ByteSize_letters (count : Nat) :
    (String.ofList (List.replicate count 'x')).utf8ByteSize = count := by
  induction count with
  | zero => rfl
  | succ count countIH =>
      have letter : "x".utf8ByteSize = 1 := by decide
      simp [List.replicate_succ, countIH, letter]
      omega

theorem of_letters {count : Nat} (long : nameLimit < count) :
    LongName (String.ofList (List.replicate count 'x')) where
  single := by simp
  noNull := by simp
  long := by rwa [utf8ByteSize_letters]

end Path.LongName

namespace Folder

variable {folder : Folder} {path text : String}

/-- The text of the file at a normal path, if a file is there. -/
def text? (folder : Folder) (path : String) : Option String :=
  match folder.entry path with
  | .file text => some text
  | _ => none

theorem text?_eq_some_iff : folder.text? path = some text ↔ folder.entry path = .file text := by
  unfold text?
  cases folder.entry path <;> simp

theorem text?_eq_none_iff :
    folder.text? path = none ↔ ∀ text, folder.entry path ≠ .file text := by
  simp only [Option.eq_none_iff_forall_ne_some, ne_eq, text?_eq_some_iff]

theorem holds_eq_isSome (plain : folder.entry path ≠ .folder) :
    folder.holds path = (folder.text? path).isSome := by
  unfold holds text?
  cases entry : folder.entry path with
  | folder => contradiction
  | file | missing | belowFile | nameTooLong => rfl

end Folder

end Connexive
