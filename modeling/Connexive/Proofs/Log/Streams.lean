import Connexive.Log.Package
import Mathlib.Data.List.Basic

namespace Connexive

/-! The log over many configurations. Each one leaves a single handler of its kind, with a stream
of its own. So a stream receives the records that are emitted up to the next configuration, as far
as its level admits them, and no others. The handlers of others stay and write where they wrote.
-/

/-- What happens to the log: it is configured, or a part of the package emits a record. -/
inductive LogEvent
  | configured (settings : Settings)
  | emitted (record : LogRecord)

namespace LogEvent

/-- The records that are emitted before the next configuration. -/
def emittedFirst : List LogEvent → List LogRecord
  | [] => []
  | emitted record :: rest => record :: emittedFirst rest
  | configured _ :: _ => []

/-- What the stream of each configuration receives. -/
def received : List LogEvent → List (List LogRecord)
  | [] => []
  | emitted _ :: rest => received rest
  | configured settings :: rest =>
    admitted settings.effectiveLevel (PackageLog.startupRecords settings ++ emittedFirst rest) ::
      received rest

end LogEvent

theorem admitted_nil (level : LogLevel) : admitted level [] = [] :=
  rfl

theorem admitted_append (level : LogLevel) (first second : List LogRecord) :
    admitted level (first ++ second) = admitted level first ++ admitted level second :=
  List.filter_append first second

namespace PackageLog

variable {log : PackageLog} {settings : Settings} {base : Nat} {finished : List (List LogRecord)}
  {current : List LogRecord}

def step (log : PackageLog) : LogEvent → PackageLog
  | .configured settings => log.configure settings
  | .emitted record => log.emit record

def run (log : PackageLog) (events : List LogEvent) : PackageLog :=
  events.foldl step log

/-- The handlers that configurations did not install. -/
def others (log : PackageLog) : List LogHandler :=
  log.handlers.filter (!·.installed)

theorem emit_handlers (log : PackageLog) (record : LogRecord) :
    (log.emit record).handlers = log.handlers := by
  rw [emit]
  split <;> rfl

theorem emitAll_handlers (log : PackageLog) (records : List LogRecord) :
    (log.emitAll records).handlers = log.handlers := by
  induction records generalizing log with
  | nil => rfl
  | cons record rest restIH => exact (restIH (log.emit record)).trans (log.emit_handlers record)

theorem length_foldl_handle (record : LogRecord) (handlers : List LogHandler)
    (streams : List (List LogRecord)) :
    (handlers.foldl (handle record) streams).length = streams.length := by
  induction handlers generalizing streams with
  | nil => rfl
  | cons handler rest restIH =>
      rw [List.foldl_cons, restIH, handle]
      split
      · exact List.length_modify _ _ _
      · rfl

theorem emit_length (log : PackageLog) (record : LogRecord) :
    (log.emit record).streams.length = log.streams.length := by
  rw [emit]
  split
  · exact length_foldl_handle record log.handlers log.streams
  · rfl

theorem emitAll_length (log : PackageLog) (records : List LogRecord) :
    (log.emitAll records).streams.length = log.streams.length := by
  induction records generalizing log with
  | nil => rfl
  | cons record rest restIH => exact (restIH (log.emit record)).trans (log.emit_length record)

/-- Handlers do not touch the streams behind theirs. -/
theorem drop_foldl_handle {handlers : List LogHandler}
    (inRange : ∀ handler ∈ handlers, handler.stream < base) (record : LogRecord)
    (streams : List (List LogRecord)) :
    (handlers.foldl (handle record) streams).drop base = streams.drop base := by
  induction handlers generalizing streams with
  | nil => rfl
  | cons handler rest restIH =>
      obtain ⟨before, restBefore⟩ := List.forall_mem_cons.mp inRange
      rw [List.foldl_cons, restIH restBefore, handle]
      split
      · exact List.drop_modify_of_lt _ _ _ _ before
      · rfl

/-- The log is as a configuration left it. Of the streams from `base` on, where others write
nothing, the last is its own and holds `current` so far. -/
structure Directed (log : PackageLog) (settings : Settings) (base : Nat)
    (finished : List (List LogRecord)) (current : List LogRecord) : Prop where
  level : log.level = settings.effectiveLevel
  propagates : log.propagates = false
  handlers : log.handlers =
    log.others ++ [⟨true, settings.effectiveLevel, base + finished.length⟩]
  inRange : ∀ handler ∈ log.others, handler.stream < base
  streams : log.streams.drop base = finished ++ [current]

namespace Directed

theorem base_le (directed : Directed log settings base finished current) :
    base ≤ log.streams.length := by
  have long := congrArg List.length directed.streams
  rw [List.length_drop, List.length_append, List.length_singleton] at long
  omega

theorem emit (directed : Directed log settings base finished current) (record : LogRecord) :
    Directed (log.emit record) settings base finished
      (current ++ admitted settings.effectiveLevel [record]) := by
  obtain ⟨level, propagates, handlers, inRange, streams⟩ := directed
  rw [PackageLog.emit]
  by_cases admits : settings.effectiveLevel.admits record.level = true
  · have received : admitted settings.effectiveLevel [record] = [record] := by
      simp [admitted, admits]
    have own : (finished ++ [current]).modify finished.length (· ++ [record]) =
        finished ++ [current ++ [record]] := by
      rw [List.modify_eq_take_drop, List.take_left, List.drop_left]
      rfl
    rw [level, if_pos admits, received]
    refine ⟨rfl, propagates, handlers, inRange, ?_⟩
    simp only [handlers, List.foldl_append, List.foldl_cons, List.foldl_nil]
    rw [handle, if_pos admits, List.drop_modify_of_ge _ _ _ _ (Nat.le_add_right _ _),
      drop_foldl_handle inRange, streams, Nat.add_sub_cancel_left, own]
  · have nothing : admitted settings.effectiveLevel [record] = [] := by
      simp [admitted, admits]
    rw [level, if_neg admits, nothing, List.append_nil]
    exact ⟨level, propagates, handlers, inRange, streams⟩

theorem emitAll (directed : Directed log settings base finished current)
    (records : List LogRecord) :
    Directed (log.emitAll records) settings base finished
      (current ++ admitted settings.effectiveLevel records) := by
  induction records generalizing log current with
  | nil =>
      rw [admitted_nil, List.append_nil]
      exact directed
  | cons record rest restIH =>
      have later := restIH (directed.emit record)
      rw [List.append_assoc, ← admitted_append] at later
      exact later

end Directed

theorem others_configure (log : PackageLog) (settings : Settings) :
    (log.configure settings).others = log.others := by
  rw [others, configure, emitAll_handlers]
  simp [others]

theorem others_step (log : PackageLog) (event : LogEvent) :
    (log.step event).others = log.others := by
  cases event with
  | configured settings => exact log.others_configure settings
  | emitted record => exact congrArg (List.filter _) (log.emit_handlers record)

theorem others_run (log : PackageLog) (events : List LogEvent) :
    (log.run events).others = log.others := by
  induction events generalizing log with
  | nil => rfl
  | cons event rest restIH => exact (restIH (log.step event)).trans (log.others_step event)

theorem directed_configure (inRange : ∀ handler ∈ log.others, handler.stream < base)
    (enough : base ≤ log.streams.length) (settings : Settings) :
    Directed (log.configure settings) settings base (log.streams.drop base)
      (admitted settings.effectiveLevel (startupRecords settings)) := by
  have kept : (log.configure settings).others = log.others := log.others_configure settings
  rw [configure, others, emitAll_handlers] at kept
  rw [← List.nil_append (admitted _ _)]
  refine Directed.emitAll ⟨rfl, rfl, ?_, ?_, ?_⟩ (startupRecords settings)
  · rw [others, kept, List.length_drop, Nat.add_sub_cancel' enough]
    rfl
  · rw [others, kept]
    exact inRange
  · exact List.drop_append_of_le_length enough

/-- From a configuration on, the streams are those that are finished, its own and those of the
configurations to come. -/
theorem Directed.run_streams (directed : Directed log settings base finished current)
    (events : List LogEvent) :
    (log.run events).streams.drop base =
      finished ++ (current ++ admitted settings.effectiveLevel (LogEvent.emittedFirst events)) ::
        LogEvent.received events := by
  induction events generalizing log settings finished current with
  | nil =>
      rw [LogEvent.emittedFirst, admitted_nil, List.append_nil]
      exact directed.streams
  | cons event rest restIH =>
      cases event with
      | emitted record =>
          have later := restIH (directed.emit record)
          rw [List.append_assoc, ← admitted_append] at later
          exact later
      | configured next =>
          have later := restIH (directed_configure directed.inRange directed.base_le next)
          rw [directed.streams, ← admitted_append, List.append_assoc] at later
          rw [LogEvent.emittedFirst, admitted_nil, List.append_nil]
          exact later

theorem run_streams (inRange : ∀ handler ∈ log.handlers, handler.stream < log.streams.length)
    (events : List LogEvent) :
    (log.run events).streams.drop log.streams.length = LogEvent.received events := by
  induction events generalizing log with
  | nil => exact List.drop_length
  | cons event rest restIH =>
      cases event with
      | emitted record =>
          rw [← log.emit_length record]
          refine restIH fun handler member => ?_
          rw [emit_handlers] at member
          rw [emit_length]
          exact inRange handler member
      | configured settings =>
          have othersInRange : ∀ handler ∈ log.others, handler.stream < log.streams.length :=
            fun handler member => inRange handler (List.mem_of_mem_filter member)
          have directed := log.directed_configure othersInRange (Nat.le_refl _) settings
          have later := directed.run_streams rest
          rw [List.drop_length, ← admitted_append] at later
          exact later

theorem length_run (log : PackageLog) (events : List LogEvent) :
    (log.run events).streams.length =
      log.streams.length + (LogEvent.received events).length := by
  induction events generalizing log with
  | nil => rfl
  | cons event rest restIH =>
      refine (restIH (log.step event)).trans ?_
      cases event with
      | emitted record =>
          rw [step, emit_length]
          rfl
      | configured settings =>
          rw [step, configure, emitAll_length, List.length_append, Nat.add_assoc,
            Nat.add_comm [[]].length]
          rfl

/-- At any time since a configuration, the log and the one handler of its kind have the level of
the settings, the handlers of others are those that were there, and the records go no further. The
streams are as many as there were configurations. Each receives, once and in order, the records of
its configuration and those emitted before the next one that its level admits, and nothing else. -/
theorem each_stream_receives_its_own
    (inRange : ∀ handler ∈ log.handlers, handler.stream < log.streams.length)
    (events : List LogEvent) :
    (log.run events).streams.drop log.streams.length = LogEvent.received events ∧
    ∀ before settings (records : List LogRecord),
      events = before ++ .configured settings :: records.map .emitted →
      let now := log.run events
      now.level = settings.effectiveLevel ∧ now.propagates = false ∧
        now.handlers.filter (·.installed) =
          [⟨true, settings.effectiveLevel,
            log.streams.length + (LogEvent.received before).length⟩] ∧
        now.handlers.filter (!·.installed) = log.handlers.filter (!·.installed) := by
  refine ⟨run_streams inRange events, ?_⟩
  rintro before settings records rfl now
  have reached : now = ((log.run before).configure settings).emitAll records := by
    simp only [now, run, List.foldl_append, List.foldl_cons, List.foldl_map]
    rfl
  have kept : (log.run before).others = log.others := log.others_run before
  have othersInRange : ∀ handler ∈ (log.run before).others,
      handler.stream < log.streams.length := by
    rw [kept]
    exact fun handler member => inRange handler (List.mem_of_mem_filter member)
  have enough : log.streams.length ≤ (log.run before).streams.length := by
    rw [length_run]
    exact Nat.le_add_right _ _
  have directed := (directed_configure othersInRange enough settings).emitAll records
  rw [← reached, run_streams inRange before] at directed
  have installed : now.others.filter (·.installed) = [] := by
    simp [others]
  refine ⟨directed.level, directed.propagates, ?_, log.others_run _⟩
  rw [directed.handlers, List.filter_append, installed]
  rfl

/-- The level goes down to let a record without a named level through, and up again. -/
theorem each_stream_receives_its_own_at_three_levels :
    let log : PackageLog := ⟨.warning, [⟨false, ⟨0⟩, 0⟩, ⟨true, .info, 1⟩], true, [[], []]⟩
    let warned : LogRecord := ⟨.warning, some "session", "warned"⟩
    let traced : LogRecord := ⟨⟨15⟩, some "session.parser", "traced"⟩
    let quiet : Settings := ⟨false, .error, "> ", false⟩
    let before := [.emitted warned, .configured .default, .emitted warned, .emitted traced,
      .configured { quiet with debugLogging := true }, .emitted traced]
    let now := log.run (before ++ .configured quiet :: [traced, warned].map .emitted)
    (∀ handler ∈ log.handlers, handler.stream < log.streams.length) ∧
      now.streams.drop 2 =
        [[⟨.info, none, "Logger initialized."⟩, warned],
          [⟨.info, none, "Logger initialized."⟩, ⟨.debug, none, "Debug logging is enabled."⟩,
            traced],
          []] ∧
      now.handlers.filter (·.installed) = [⟨true, .error, 4⟩] := by
  intro log warned traced quiet before now
  have inRange : ∀ handler ∈ log.handlers, handler.stream < log.streams.length := by decide
  obtain ⟨streams, configured⟩ := each_stream_receives_its_own inRange
    (before ++ .configured quiet :: [traced, warned].map .emitted)
  exact ⟨inRange, streams, (configured before quiet [traced, warned] rfl).2.2.1⟩

end PackageLog

end Connexive
