import Warden.Proofs.Notification

/-!
Figures that cannot be had. The host is asked for them in seven calls, and five of these are spared:
where such a call fails, the figures that come from it are unknown, and all others are what they are
when nothing fails. Of the other two, the one for this process and the one for the processors, a
fault goes through, so a report with no figures at all is what it costs.
-/

namespace Warden

namespace Run

variable {ε α β : Type}

theorem result_bind_of_ok {run : Run ε α} {value : α} {next : α → Run ε β}
    (succeeded : run.result = .ok value) : (run >>= next).result = (next value).result := by
  change (run.andThen next).result = _
  rw [andThen_of_ok next succeeded]

theorem bind_eq_ok {run : Run ε α} {next : α → Run ε β} {value : β} :
    (run >>= next).result = .ok value ↔
      ∃ middle, run.result = .ok middle ∧ (next middle).result = .ok value := by
  change (run.andThen next).result = _ ↔ _
  cases ending : run.result with
  | ok middle => simp [andThen_of_ok next ending]
  | error failure => simp [andThen_of_error next ending]

end Run

inductive FigureCall
  | process
  | memory
  | load
  | bootTime
  | startTime
  | residentBytes
  | processors
  deriving DecidableEq

namespace Host

structure Works (host : Host) : Prop where
  process : host.process = none
  memory : ∃ memory, host.memory = .ok memory
  load : ∃ loads, host.load = .ok loads
  bootTime : ∃ start, host.bootTime = .ok start
  startTime : ∃ start, host.startTime = .ok start
  residentBytes : ∃ bytes, host.residentBytes = .ok bytes
  processors : ∃ count, host.processors = .ok count

def failing (host : Host) (faults : FigureCall → Option Fault) : Host :=
  { host with
    process := faults .process
    memory := (faults .memory).elim host.memory .error
    load := (faults .load).elim host.load .error
    bootTime := (faults .bootTime).elim host.bootTime .error
    startTime := (faults .startTime).elim host.startTime .error
    residentBytes := (faults .residentBytes).elim host.residentBytes .error
    processors := (faults .processors).elim host.processors .error }

/-- In the calls that are spared there is no fault but one that costs a figure. -/
structure Spared (host : Host) : Prop where
  memory : ∀ fault, host.memory = .error fault → fault.isFigure = true
  load : ∀ fault, host.load = .error fault → fault.isFigure = true
  bootTime : ∀ fault, host.bootTime = .error fault → fault.isFigure = true
  startTime : ∀ fault, host.startTime = .error fault → fault.isFigure = true
  residentBytes : ∀ fault, host.residentBytes = .error fault → fault.isFigure = true

theorem Works.spared {host : Host} (working : host.Works) : host.Spared := by
  have calm {α : Type} {answer : Except Fault α} (works : ∃ value, answer = .ok value) :
      ∀ fault, answer = .error fault → fault.isFigure = true := by
    obtain ⟨value, rfl⟩ := works
    exact fun _ failed => nomatch failed
  exact ⟨calm working.memory, calm working.load, calm working.bootTime, calm working.startTime,
    calm working.residentBytes⟩

structure Legible (host : Host) (now : Number) : Prop where
  clock : ∃ text, Clock.ofNumber now = .ok text
  uptimes : ∀ start, host.bootTime = .ok start ∨ host.startTime = .ok start →
    ∃ seconds text, now.sub? start = some seconds ∧ Duration.ofNumber seconds = .ok text
  load : ∀ loads, host.load = .ok loads → ∃ values, loads.mapM Number.toBinary? = some values

end Host

namespace Figures

/-- The figures as they should be when some calls fail: what comes from such a call is unknown, and
another count stands in for the one of the processors. -/
def without (figures : Figures) (faults : FigureCall → Option Fault) (fallback : Option Int) :
    Figures :=
  let kept {α : Type} (call : FigureCall) (figure : Option α) : Option α :=
    if (faults call).isSome then none else figure
  { figures with
    systemUptime := kept .bootTime figures.systemUptime
    processUptime := kept .process (kept .startTime figures.processUptime)
    totalMemory := kept .memory figures.totalMemory
    usedMemory := kept .memory figures.usedMemory
    processMemory := kept .process (kept .residentBytes figures.processMemory)
    load := kept .load figures.load
    processors := if (faults .processors).isSome then fallback else figures.processors }

structure Drawn (figures : Figures) (host : Host) (now : Number) : Prop where
  clock : Clock.ofNumber now = .ok figures.clock
  systemUptime : (uptime now host.bootTime.toOption).result = .ok figures.systemUptime
  processUptime : (uptime now host.startTime.toOption).result = .ok figures.processUptime
  totalMemory : figures.totalMemory = host.memory.toOption.join.map (megabytes ·.total)
  usedMemory : figures.usedMemory = host.memory.toOption.join.map (megabytes ·.used)
  processMemory : figures.processMemory = host.residentBytes.toOption.map megabytes
  load : (loadText host.load.toOption).result = .ok figures.load
  processors : ∀ count, host.processors = .ok count →
    figures.processors = firstCount count host.fallbackCount
  threads : figures.threads = host.threads

variable {host : Host} {now : Number} {figures : Figures}

theorem ifAvailable_result {α : Type} (name : String) {answer : Except Fault α}
    (spared : ∀ fault, answer = .error fault → fault.isFigure = true) :
    (ifAvailable name answer).result = .ok answer.toOption := by
  cases answer with
  | ok value => rfl
  | error fault => simp [ifAvailable, spared fault rfl, Except.toOption]

theorem drawn_of_collect (spared : host.Spared)
    (collected : (collect host now).result = .ok figures) :
    host.process = none ∧ (∃ count, host.processors = .ok count) ∧ figures.Drawn host now := by
  unfold collect at collected
  dsimp only at collected
  split at collected
  next => cases collected
  next asked =>
    simp only [Run.bind_eq_ok, ifAvailable_result _ spared.memory, ifAvailable_result _ spared.load,
      ifAvailable_result _ spared.bootTime, ifAvailable_result _ spared.startTime,
      ifAvailable_result _ spared.residentBytes, Run.ofExcept, Run.mapError_eq_ok,
      Except.ok.injEq, exists_eq_left'] at collected
    obtain ⟨clock, told, systemUptime, system, processUptime, process, load, loaded, count, counted,
      same⟩ := collected
    obtain rfl := Except.ok.inj same
    refine ⟨asked, ⟨count, counted⟩, told, system, process, rfl, rfl, rfl, loaded, ?_, rfl⟩
    intro other again
    rw [Except.ok.inj (counted.symm.trans again)]

theorem collect_of_drawn (asked : host.process = none) (spared : host.Spared)
    (drawn : figures.Drawn host now) :
    (collect host now).result =
      match host.processors with
      | .ok _ => .ok figures
      | .error fault => .error (.fault fault) := by
  have system : (ifAvailable "system_uptime" host.bootTime >>= uptime now).result = _ :=
    (Run.result_bind_of_ok (ifAvailable_result _ spared.bootTime)).trans drawn.systemUptime
  have process : (ifAvailable "process_uptime" host.startTime >>= uptime now).result = _ :=
    (Run.result_bind_of_ok (ifAvailable_result _ spared.startTime)).trans drawn.processUptime
  unfold collect
  dsimp only
  rw [asked]
  dsimp only
  rw [Run.result_bind_of_ok (ifAvailable_result _ spared.memory),
    Run.result_bind_of_ok (ifAvailable_result _ spared.load),
    Run.result_bind_of_ok (Run.mapError_eq_ok.mpr drawn.clock),
    Run.result_bind_of_ok system, Run.result_bind_of_ok process,
    Run.result_bind_of_ok (ifAvailable_result _ spared.residentBytes),
    Run.result_bind_of_ok drawn.load]
  cases counted : host.processors with
  | error fault => rfl
  | ok count =>
      rw [Run.result_bind_of_ok rfl, ← drawn.totalMemory, ← drawn.usedMemory,
        ← drawn.processMemory, ← drawn.processors count counted, ← drawn.threads]
      rfl

theorem uptime_returns_iff (now : Number) (start? : Option Number) :
    (∃ text, (uptime now start?).result = .ok text) ↔ ∀ start ∈ start?,
      ∃ seconds text, now.sub? start = some seconds ∧ Duration.ofNumber seconds = .ok text := by
  cases start? with
  | none => simp [uptime, pure]
  | some start =>
      cases told : now.sub? start with
      | none => simp [uptime, told, Run.fail]
      | some seconds =>
          cases written : Duration.ofNumber seconds <;>
            simp [uptime, told, written, Run.ofExcept, Except.map]

theorem loadText_returns_iff (loads? : Option (List Number)) :
    (∃ text, (loadText loads?).result = .ok text) ↔ ∀ loads ∈ loads?,
      ∃ values, loads.mapM Number.toBinary? = some values := by
  unfold loadText
  split
  · simp [pure]
  · simp [pure]
  next loads _ =>
    cases converted : loads.mapM Number.toBinary? <;> simp [converted, pure, Run.fail]

theorem legible_iff_drawn :
    host.Legible now ↔ ∃ figures : Figures, figures.Drawn host now := by
  have told {α : Type} {answer : Except Fault α} {value : α} :
      value ∈ answer.toOption ↔ answer = .ok value := by
    cases answer <;> simp [Except.toOption, eq_comm]
  constructor
  · rintro ⟨⟨clock, moment⟩, uptimes, loads⟩
    obtain ⟨systemUptime, system⟩ := (uptime_returns_iff now host.bootTime.toOption).mpr
      fun start member => uptimes start (.inl (told.mp member))
    obtain ⟨processUptime, process⟩ := (uptime_returns_iff now host.startTime.toOption).mpr
      fun start member => uptimes start (.inr (told.mp member))
    obtain ⟨load, loaded⟩ := (loadText_returns_iff host.load.toOption).mpr
      fun values member => loads values (told.mp member)
    let figures : Figures :=
      { clock, systemUptime, processUptime, load
        totalMemory := host.memory.toOption.join.map (megabytes ·.total)
        usedMemory := host.memory.toOption.join.map (megabytes ·.used)
        processMemory := host.residentBytes.toOption.map megabytes
        processors := host.processors.toOption.bind (firstCount · host.fallbackCount)
        threads := host.threads }
    refine ⟨figures, moment, system, process, rfl, rfl, rfl, loaded, ?_, rfl⟩
    intro count counted
    simp [figures, counted, Except.toOption]
  · rintro ⟨figures, drawn⟩
    refine ⟨⟨_, drawn.clock⟩, ?_, ?_⟩
    · rintro start (boot | launch)
      · exact (uptime_returns_iff now _).mp ⟨_, drawn.systemUptime⟩ start (told.mpr boot)
      · exact (uptime_returns_iff now _).mp ⟨_, drawn.processUptime⟩ start (told.mpr launch)
    · intro loads loaded
      exact (loadText_returns_iff _).mp ⟨_, drawn.load⟩ loads (told.mpr loaded)

theorem collect_returns_iff (spared : host.Spared) :
    (∃ figures, (collect host now).result = .ok figures) ↔
      host.process = none ∧ (∃ count, host.processors = .ok count) ∧ host.Legible now := by
  constructor
  · rintro ⟨figures, collected⟩
    obtain ⟨asked, counted, drawn⟩ := drawn_of_collect spared collected
    exact ⟨asked, counted, legible_iff_drawn.mpr ⟨figures, drawn⟩⟩
  · rintro ⟨asked, ⟨count, counted⟩, legible⟩
    obtain ⟨figures, drawn⟩ := legible_iff_drawn.mp legible
    refine ⟨figures, ?_⟩
    rw [collect_of_drawn asked spared drawn, counted]

section Failing

variable {faults : FigureCall → Option Fault}

theorem isFigure_of_elim {α : Type} {answer : Except Fault α} {fault? : Option Fault}
    (works : ∃ value, answer = .ok value)
    (handled : ∀ fault ∈ fault?, fault.isFigure = true) :
    ∀ fault, fault?.elim answer .error = .error fault → fault.isFigure = true := by
  obtain ⟨value, rfl⟩ := works
  intro fault failed
  cases fault? with
  | none => cases failed
  | some other =>
      cases failed
      exact handled fault rfl

theorem spared_failing (working : host.Works)
    (handled : ∀ call, ∀ fault ∈ faults call, fault.isFigure = true) :
    (host.failing faults).Spared where
  memory := isFigure_of_elim working.memory (handled .memory)
  load := isFigure_of_elim working.load (handled .load)
  bootTime := isFigure_of_elim working.bootTime (handled .bootTime)
  startTime := isFigure_of_elim working.startTime (handled .startTime)
  residentBytes := isFigure_of_elim working.residentBytes (handled .residentBytes)

theorem drawn_without (drawn : figures.Drawn host now) (asked : faults .process = none) :
    (figures.without faults host.fallbackCount).Drawn (host.failing faults) now := by
  constructor
  · exact drawn.clock
  · cases boot : faults .bootTime with
    | none => simpa [Host.failing, without, boot] using drawn.systemUptime
    | some fault => simp [Host.failing, without, boot, Except.toOption, uptime, pure]
  · cases start : faults .startTime with
    | none => simpa [Host.failing, without, start, asked] using drawn.processUptime
    | some fault => simp [Host.failing, without, start, asked, Except.toOption, uptime, pure]
  · cases memory : faults .memory with
    | none => simpa [Host.failing, without, memory] using drawn.totalMemory
    | some fault => simp [Host.failing, without, memory, Except.toOption]
  · cases memory : faults .memory with
    | none => simpa [Host.failing, without, memory] using drawn.usedMemory
    | some fault => simp [Host.failing, without, memory, Except.toOption]
  · cases bytes : faults .residentBytes with
    | none => simpa [Host.failing, without, bytes, asked] using drawn.processMemory
    | some fault => simp [Host.failing, without, bytes, asked, Except.toOption]
  · cases load : faults .load with
    | none => simpa [Host.failing, without, load] using drawn.load
    | some fault => simp [Host.failing, without, load, Except.toOption, loadText, pure]
  · cases processors : faults .processors with
    | none => simpa [Host.failing, without, processors] using drawn.processors
    | some fault => simp [Host.failing, processors]
  · exact drawn.threads

theorem counts_failing_iff (working : host.Works) :
    (∃ count, (host.failing faults).processors = .ok count) ↔ faults .processors = none := by
  obtain ⟨count, counted⟩ := working.processors
  cases failed : faults .processors <;> simp [Host.failing, failed, counted]

theorem collect_of_process {fault : Fault} (failed : host.process = some fault) (now : Number) :
    (collect host now).result = .error (.fault fault) := by
  simp only [collect, failed]
  rfl

/-- Exactly when failing calls cost no more than their figures: unless one of them is the call for
this process or the one for the processors, whose faults go through. A collection returns exactly if
these two work and what the other calls tell can be written. -/
theorem collect_without_iff (working : host.Works)
    (handled : ∀ call, ∀ fault ∈ faults call, fault.isFigure = true) (now : Number) :
    let spoiled := host.failing faults
    ((∃ figures, (collect spoiled now).result = .ok figures) ↔
      faults .process = none ∧ faults .processors = none ∧ spoiled.Legible now) ∧
    ∀ whole, (collect host now).result = .ok whole →
      ((collect spoiled now).result = .ok (whole.without faults host.fallbackCount) ↔
        faults .process = none ∧ faults .processors = none) ∧
      ∀ fault, (faults .process).or (faults .processors) = some fault →
        (collect spoiled now).result = .error (.fault fault) := by
  intro spoiled
  have spared : spoiled.Spared := spared_failing working handled
  have counts : (∃ count, spoiled.processors = .ok count) ↔ faults .processors = none :=
    counts_failing_iff working
  refine ⟨?_, ?_⟩
  · rw [collect_returns_iff spared, counts]
    exact Iff.rfl
  · intro whole collected
    obtain ⟨_, _, drawn⟩ := drawn_of_collect working.spared collected
    have left (asked : faults .process = none) := collect_of_drawn asked spared
      (drawn_without drawn asked)
    refine ⟨⟨?_, ?_⟩, ?_⟩
    · intro same
      obtain ⟨asked, counted, _⟩ := drawn_of_collect spared same
      exact ⟨asked, counts.mp counted⟩
    · rintro ⟨asked, counted⟩
      obtain ⟨count, told⟩ := counts.mpr counted
      rw [left asked, told]
    · intro fault failed
      cases asked : faults .process with
      | some first =>
          obtain rfl : first = fault := by simpa [asked] using failed
          exact collect_of_process asked now
      | none =>
          have uncounted : faults .processors = some fault := by simpa [asked] using failed
          have broken : spoiled.processors = .error fault := by
            simp [spoiled, Host.failing, uncounted]
          rw [left asked, broken]

end Failing

def only (call : FigureCall) (fault : Fault) : FigureCall → Option Fault :=
  fun other => if other = call then some fault else none

theorem quiet_works : Host.quiet.Works :=
  ⟨rfl, ⟨_, rfl⟩, ⟨_, rfl⟩, ⟨_, rfl⟩, ⟨_, rfl⟩, ⟨_, rfl⟩, ⟨_, rfl⟩⟩

theorem isFigure_of_only {call : FigureCall} {fault : Fault} (figure : fault.isFigure = true) :
    ∀ other, ∀ found ∈ only call fault other, found.isFigure = true := by
  intro other found member
  unfold only at member
  split at member
  · cases member
    exact figure
  · cases member

theorem collect_without_boot_time :
    let faults := only .bootTime ⟨.figures, "no boot time"⟩
    Host.quiet.Works ∧ (∀ call, ∀ fault ∈ faults call, fault.isFigure = true) ∧
      ∃ whole, (collect Host.quiet (.whole 1700000000)).result = .ok whole ∧
        whole.systemUptime = some "19675 days, 22:13:20" ∧
        (collect (Host.quiet.failing faults) (.whole 1700000000)).result =
          .ok { whole with systemUptime := none } := by
  intro faults
  have handled : ∀ call, ∀ fault ∈ faults call, fault.isFigure = true := isFigure_of_only rfl
  obtain ⟨whole, collected⟩ :
      ∃ whole, (collect Host.quiet (.whole 1700000000)).result = .ok whole := ⟨_, rfl⟩
  obtain ⟨_, rest⟩ := collect_without_iff quiet_works handled (.whole 1700000000)
  refine ⟨quiet_works, handled, whole, collected, ?_, (rest whole collected).1.mpr ⟨rfl, rfl⟩⟩
  cases collected
  decide +kernel

/-- Without this process, or without a count of the processors, there are no figures at all. -/
theorem not_collect_without_process_or_processors :
    let now : Number := .whole 1700000000
    let denied : Fault := ⟨.figures, "denied"⟩
    let returns (host : Host) : Prop := ∃ figures, (collect host now).result = .ok figures
    denied.isFigure = true ∧ returns Host.quiet ∧
      ¬returns (Host.quiet.failing (only .process denied)) ∧
      ¬returns (Host.quiet.failing (only .processors denied)) := by
  refine ⟨rfl, ⟨_, rfl⟩, ?_, ?_⟩
  · rintro ⟨figures, collected⟩
    cases collected
  · rintro ⟨figures, collected⟩
    cases collected

end Figures

end Warden
