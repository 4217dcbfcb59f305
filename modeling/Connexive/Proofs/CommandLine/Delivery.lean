import Connexive.CommandLine.Arguments

namespace Connexive

/-! Requests written as arguments. Each value stands behind its option or is attached to it, and
what the arguments ask for is the request again, with every value as it was given. Only two dashes
are no value wherever they stand: what asks for them leaves an option without one.
-/

variable {argument value command : String} {flag : Flag} {isLong : Bool} {reading : Reading}

/-- No option of a request is left without a value. -/
structure Request.Valued (request : Request) : Prop where
  config : request.config ≠ some Request.noValue
  commands : Request.noValue ∉ request.commands
  script : request.script ≠ some Request.noValue

namespace Reading

theorem ofArgument_attached (value : String) :
    ofArgument ("-e=" ++ value) = .ok (.option .execute false (some value)) := by
  have text : ("-e=" ++ value).toList = '-' :: 'e' :: '=' :: value.toList := by simp
  have short : ofShort 'e' ('=' :: value.toList) = .option .execute false (some value) := by
    exact congrArg (fun text => Reading.option .execute false (some text)) String.ofList_toList
  rw [ofArgument, text, ← short]
  rfl

theorem ofLong_attached {name : String} (listed : (name, flag) ∈ Flag.long) (value : String) :
    ofLong (name ++ "=" ++ value) = .ok (.option flag true (some value)) := by
  have text : (name ++ "=" ++ value).toList = name.toList ++ '=' :: value.toList := by simp
  have noSign : ∀ entry ∈ Flag.long, '=' ∉ entry.1.toList := by decide
  have unique : ∀ entry ∈ Flag.long,
      Flag.long.find? (·.1.toList == entry.1.toList) = some entry := by decide
  have isName : ∀ c ∈ name.toList, (c != '=') = true := fun c member =>
    bne_iff_ne.mpr fun same => noSign _ listed (same ▸ member)
  have whole : Flag.long.find? (·.1 == name ++ "=" ++ value) = none := by
    refine List.find?_eq_none.mpr fun entry member same => noSign entry member ?_
    rw [eq_of_beq same, text]
    exact List.mem_append_right _ List.mem_cons_self
  have begins : (name.toList ++ '=' :: value.toList).takeWhile (· != '=') = name.toList := by
    rw [List.takeWhile_append_of_pos isName]
    simp
  have attached : attachedAfter (name.toList ++ '=' :: value.toList) name.toList =
      some value := by
    rw [attachedAfter, List.drop_left]
    exact congrArg some String.ofList_toList
  simp only [ofLong, whole, text, begins, unique _ listed, attached]

theorem ofArgument_positional (plain : command.toList.head? ≠ some '-') :
    ofArgument command = .ok .positional := by
  unfold ofArgument
  split
  · next begins => exact absurd (begins ▸ rfl) plain
  · next begins => exact absurd (begins ▸ rfl) plain
  · rfl

end Reading

namespace Invocation

/-- What the rest of the arguments makes of a request. -/
def resume (request : Request) (rest : List String) : Except UsageFault Invocation :=
  match Reading.ofArguments rest with
  | .ok readings => interpret request [] readings
  | .error fault => .error fault

theorem resume_nil (request : Request) : resume request [] = .ok (.run request) :=
  rfl

theorem resume_cons (apart : argument ≠ "--") (read : Reading.ofArgument argument = .ok reading)
    (request : Request) (rest : List String) :
    resume request (argument :: rest) =
      match Reading.ofArguments rest with
      | .ok readings => interpret request [] ((argument, reading) :: readings)
      | .error fault => .error fault := by
  rw [resume, Reading.ofArguments, if_neg apart, read]
  cases Reading.ofArguments rest <;> rfl

theorem resume_attached (apart : argument ≠ "--") (takes : flag.takesValue = true)
    (read : Reading.ofArgument argument = .ok (.option flag isLong (some value)))
    (request : Request) (rest : List String) :
    resume request (argument :: rest) = resume (request.set value flag) rest := by
  rw [resume_cons apart read, resume]
  cases Reading.ofArguments rest with
  | error fault => rfl
  | ok readings => simp only [interpret, takes, if_true]

theorem resume_separate (plain : command.toList.head? ≠ some '-') (request : Request)
    (rest : List String) :
    resume request ("-e" :: command :: rest) = resume (request.set command .execute) rest := by
  have apart : command ≠ "--" := by
    rintro rfl
    exact plain rfl
  have short : Reading.ofArgument "-e" = .ok (.option .execute false none) := rfl
  rw [resume_cons (by decide) short, resume, Reading.ofArguments, if_neg apart,
    Reading.ofArgument_positional plain]
  cases Reading.ofArguments rest <;> rfl

theorem resume_debug (request : Request) (rest : List String) :
    resume request ("--debug" :: rest) = resume { request with debug := true } rest := by
  have long : Reading.ofArgument "--debug" = .ok (.option .debug true none) := rfl
  rw [resume_cons (by decide) long, resume]
  cases Reading.ofArguments rest with
  | error fault => rfl
  | ok readings =>
      dsimp only
      rw [interpret.eq_def]
      rfl

theorem resume_long {name : String} (listed : (name, flag) ∈ Flag.long)
    (takes : flag.takesValue = true) (request : Request) (value : String) (rest : List String) :
    resume request ((name ++ "=" ++ value) :: rest) = resume (request.set value flag) rest := by
  have dashes : ∀ entry ∈ Flag.long, ∃ letters, entry.1.toList = '-' :: '-' :: letters := by
    intro entry member
    simp only [Flag.long, List.mem_cons, List.not_mem_nil, or_false] at member
    rcases member with rfl | rfl | rfl | rfl | rfl <;> exact ⟨_, rfl⟩
  obtain ⟨letters, name_eq⟩ := dashes _ listed
  have text : (name ++ "=" ++ value).toList = '-' :: '-' :: (letters ++ '=' :: value.toList) := by
    simp [name_eq]
  have apart : name ++ "=" ++ value ≠ "--" := by
    intro same
    have sign := congrArg ('=' ∈ String.toList ·) same
    simp at sign
  have read : Reading.ofArgument (name ++ "=" ++ value) =
      .ok (.option flag true (some value)) := by
    rw [← Reading.ofLong_attached listed, Reading.ofArgument, text]
    rfl
  exact resume_attached apart takes read request rest

/-- An option that is given only where there is a value for it. -/
theorem resume_optional {name : String} (listed : (name, flag) ∈ Flag.long)
    (takes : flag.takesValue = true) (value : Option String) (request : Request)
    (rest : List String) :
    resume request ((value.map (name ++ "=" ++ ·)).toList ++ rest) =
      resume (value.elim request (request.set · flag)) rest := by
  cases value with
  | none => rfl
  | some text => exact resume_long listed takes request text rest

end Invocation

namespace Request

/-- A command as arguments: behind the option, or attached to it where it looks like one itself. -/
def commandArguments (command : String) : List String :=
  if command.toList.head? = some '-' then ["-e=" ++ command] else ["-e", command]

/-- A request as arguments. -/
def arguments (request : Request) : List String :=
  (request.config.map ("--config" ++ "=" ++ ·)).toList ++
    ((if request.debug then ["--debug"] else []) ++
      (request.commands.flatMap commandArguments ++
        (request.script.map ("--script" ++ "=" ++ ·)).toList))

theorem resume_commands (commands rest : List String) (request : Request) :
    Invocation.resume request (commands.flatMap commandArguments ++ rest) =
      Invocation.resume { request with commands := request.commands ++ commands } rest := by
  induction commands generalizing request with
  | nil => simp
  | cons command commands commandsIH =>
      have first (later : List String) :
          Invocation.resume request (commandArguments command ++ later) =
            Invocation.resume (request.set command .execute) later := by
        rw [commandArguments]
        split
        · have apart : "-e=" ++ command ≠ "--" := by
            intro same
            have letter := congrArg ('e' ∈ String.toList ·) same
            simp at letter
          exact Invocation.resume_attached apart rfl (Reading.ofArgument_attached command) _ _
        · next plain => exact Invocation.resume_separate plain _ _
      rw [List.flatMap_cons, List.append_assoc, first, commandsIH]
      simp [set]

theorem resume_debugging (debug : Bool) (request : Request) (rest : List String) :
    Invocation.resume request ((if debug then ["--debug"] else []) ++ rest) =
      Invocation.resume { request with debug := debug || request.debug } rest := by
  cases debug with
  | false => rfl
  | true => exact Invocation.resume_debug request rest

theorem ofArguments_arguments (request : Request) :
    Invocation.ofArguments request.arguments = .ok (.run request) := by
  have config : ("--config", Flag.config) ∈ Flag.long := by decide
  have script : ("--script", Flag.script) ∈ Flag.long := by decide
  have begin : Invocation.ofArguments request.arguments =
      Invocation.resume .empty request.arguments := rfl
  rw [begin, arguments, Invocation.resume_optional config rfl, resume_debugging, resume_commands,
    ← List.append_nil (Option.toList _), Invocation.resume_optional script rfl,
    Invocation.resume_nil]
  obtain ⟨configFile, debug, commands, scriptFile⟩ := request
  cases configFile <;> cases scriptFile <;> simp [set, empty]

end Request

end Connexive
