import Warden.Proofs.Hosting

/-!
All daemons or none. If the first entry of each name loads, the main program runs one daemon for each
name, in the order of the names, and returns when all of them are over. Otherwise it calls none, and
reports the first name that there is no daemon for.
-/

namespace Warden

namespace Daemon

variable {entries : List Entry} {name : String}

theorem isCause_of_loadProblem? {problem : LoadProblem}
    (ordinary : ∀ entry ∈ entries, ∀ fault, entry.loading = .error fault →
      fault.isOrdinary = true)
    (broken : loadProblem? entries name = some problem) :
    ∃ cause, problem = .missing cause ∧ IsCause entries name cause := by
  rw [loadProblem?_eq_some] at broken
  cases problem with
  | missing cause => exact ⟨cause, rfl, load_eq_missing.mp broken⟩
  | interrupt fault =>
      obtain ⟨interrupt, entry, ⟨_, front, back, split, _⟩, failed⟩ := load_eq_interrupt.mp broken
      have handled := ordinary entry (by simp [split]) fault failed
      rw [interrupt] at handled
      cases handled

theorem context_of_call (context : DaemonContext) (stopsDuring : Nat → Bool) (stopping : Bool)
    (failures : Nat) (script : List Act) {told : DaemonContext} {requested : Bool}
    (called : .call told requested ∈
      (autoRestart context stopsDuring stopping failures script).1) : told = context := by
  have own : ∀ event ∈ (autoRestart context stopsDuring stopping failures script).1,
      ∀ told requested, event = .call told requested → told = context :=
    autoRestart_every context stopsDuring stopping failures script (by simp) (by simp) (by simp)
  exact own _ called told requested rfl

end Daemon

namespace MainProgram

variable {entries : List Daemon.Entry} {names : List String}

/-- A daemon that the main program runs: it is the one that is loaded for its name, it is told what
it has to know, and it is restarted until it is over. -/
structure Runs (program : MainProgram) (entries : List Daemon.Entry) (moments : StopMoments)
    (daemon : Watched) : Prop where
  served : Daemon.Serves entries daemon.name daemon.service
  restarted : daemon.events = (Daemon.autoRestart (program.context daemon.name) moments.inPause
    moments.atStart 0 (moments.addedTo daemon.service.script)).1
  informed : ∀ context stopping, .call context stopping ∈ daemon.events →
    context = ⟨daemon.name, program.config, program.secret, program.maxWorkers⟩
  ended : Daemon.IsOver daemon.name daemon.service.script daemon.events

theorem serves_of_mem_loadAll :
    ∀ daemon ∈ (loadAll entries names).1, Daemon.Serves entries daemon.name daemon.service := by
  induction names with
  | nil => simp [loadAll]
  | cons name names ih =>
      rw [loadAll]
      cases loaded : Daemon.load entries name with
      | error problem => simp
      | ok service => exact List.forall_mem_cons.mpr ⟨Daemon.load_eq_ok.mp loaded, ih⟩

theorem runs_of_runEach {program : MainProgram} {moments : Nat → StopMoments}
    {daemons : List Watched}
    (served : ∀ daemon ∈ daemons, Daemon.Serves entries daemon.name daemon.service) {index : Nat}
    {ran : Watched} (found : (program.runEach moments daemons)[index]? = some ran) :
    program.Runs entries (moments index) ran := by
  obtain ⟨daemon, there, rfl⟩ := getElem?_runEach found
  exact ⟨served daemon (List.mem_of_getElem? there), rfl,
    fun context requested called => Daemon.context_of_call _ _ _ _ _ called,
    program.runOne_isOver daemon _⟩

/-- The main program runs all of its daemons or none of them. If the first entry of each name loads,
it starts one daemon for each name in their order, and returns when all of them are over, whenever a
stop reaches them. Otherwise it calls none, and fails because of the first name that there is no
daemon for. -/
theorem run_all_or_none (program : MainProgram) (moments : Nat → StopMoments)
    {entries : List Daemon.Entry}
    (ordinary : ∀ entry ∈ entries, ∀ fault, entry.loading = .error fault →
      fault.isOrdinary = true) (names : List String) :
    let outcome := program.runWith moments entries names
    ((∀ name ∈ names, ∃ service, Daemon.Serves entries name service) →
      outcome.run = ⟨names.map fun name => .log .info ("Started daemon " ++ name), .ok ()⟩ ∧
      outcome.daemons.map Watched.name = names ∧
      ∀ (index : Nat) (daemon : Watched), outcome.daemons[index]? = some daemon →
        program.Runs entries (moments index) daemon) ∧
    ((∃ name ∈ names, ¬∃ service, Daemon.Serves entries name service) →
      ∃ front name back cause, names = front ++ name :: back ∧
        (∀ earlier ∈ front, ∃ service, Daemon.Serves entries earlier service) ∧
        Daemon.IsCause entries name cause ∧
        outcome.run = ⟨[], .error (.missing cause)⟩ ∧
        ∀ daemon ∈ outcome.daemons, daemon.events = []) := by
  intro outcome
  constructor
  · intro served
    have complete : (loadAll entries names).2 = none := by
      rw [loadAll_problem, List.findSome?_eq_none_iff]
      exact fun name member => Daemon.loadProblem?_eq_none_iff.mpr (served name member)
    have known := program.runWith_of_complete moments complete
    have announced : (loadAll entries names).1.map started =
        names.map fun name => .log .info ("Started daemon " ++ name) := by
      calc (loadAll entries names).1.map started
          = ((loadAll entries names).1.map Watched.name).map
              fun name => .log .info ("Started daemon " ++ name) := by
            rw [List.map_map]
            rfl
        _ = names.map fun name => .log .info ("Started daemon " ++ name) := by
            rw [names_loadAll complete]
    rw [show outcome = _ from known]
    exact ⟨by rw [announced], by rw [names_runEach, names_loadAll complete],
      fun _ _ found => runs_of_runEach serves_of_mem_loadAll found⟩
  · rintro ⟨name, member, unserved⟩
    cases first : (loadAll entries names).2 with
    | none =>
        rw [loadAll_problem, List.findSome?_eq_none_iff] at first
        exact absurd (Daemon.loadProblem?_eq_none_iff.mp (first name member)) unserved
    | some problem =>
        have known := program.runWith_of_problem moments first
        rw [loadAll_problem, List.findSome?_eq_some_iff] at first
        obtain ⟨front, missing, back, split, broken, loads⟩ := first
        obtain ⟨cause, rfl, caused⟩ := Daemon.isCause_of_loadProblem? ordinary broken
        refine ⟨front, missing, back, cause, split, ?_, caused, ?_, ?_⟩
        · exact fun earlier inside => Daemon.loadProblem?_eq_none_iff.mp (loads earlier inside)
        · rw [show outcome = _ from known]
          rfl
        · rw [show outcome = _ from known]
          exact loadAll_silent entries names

theorem run_all_or_none_of_three :
    let program : MainProgram := ⟨some "cfg.json", some "s3cret", some 4, false⟩
    let refused : Fault := ⟨.runtime, "no module"⟩
    let entries : List Daemon.Entry :=
      [⟨"dnsd", .ok ⟨1, [⟨false, some refused⟩]⟩⟩, ⟨"chat", .error refused⟩, ⟨"chat", .ok ⟨2, []⟩⟩]
    let moments : Nat → StopMoments := fun index => { inCall := fun _ => index == 1 }
    let well := program.runWith moments entries ["dnsd", "dnsd"]
    let ill := program.runWith moments entries ["dnsd", "chat"]
    (∀ entry ∈ entries, ∀ fault, entry.loading = .error fault → fault.isOrdinary = true) ∧
      (∀ name ∈ ["dnsd", "dnsd"], ∃ service, Daemon.Serves entries name service) ∧
      (well.run.result = .ok () ∧ well.daemons.map Watched.name = ["dnsd", "dnsd"] ∧
        well.daemons.map (fun daemon => daemon.events.countP Event.isCall) = [2, 1] ∧
        ∀ (index : Nat) (daemon : Watched), well.daemons[index]? = some daemon →
          program.Runs entries (moments index) daemon) ∧
      (∃ name ∈ ["dnsd", "chat"], ¬∃ service, Daemon.Serves entries name service) ∧
      ∃ cause, ill.run = ⟨[], .error (.missing cause)⟩ ∧
        ∀ daemon ∈ ill.daemons, daemon.events = [] := by
  intro program refused entries moments well ill
  have ordinary : ∀ entry ∈ entries, ∀ fault, entry.loading = .error fault →
      fault.isOrdinary = true := by
    simp [entries, refused, Fault.isOrdinary]
  have served : ∀ name ∈ ["dnsd", "dnsd"], ∃ service, Daemon.Serves entries name service := by
    simp only [← Daemon.loadProblem?_eq_none_iff]
    decide
  have unserved : ∃ name ∈ ["dnsd", "chat"], ¬∃ service, Daemon.Serves entries name service := by
    simp only [← Daemon.loadProblem?_eq_none_iff]
    decide
  obtain ⟨ran, named, each⟩ :=
    (program.run_all_or_none moments ordinary ["dnsd", "dnsd"]).1 served
  obtain ⟨_, _, _, cause, _, _, _, failed, silent⟩ :=
    (program.run_all_or_none moments ordinary ["dnsd", "chat"]).2 unserved
  exact ⟨ordinary, served, ⟨by rw [ran], named, by decide, each⟩, unserved, cause, failed, silent⟩

end MainProgram

end Warden
