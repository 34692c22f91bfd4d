/-
# Tasks that live as long as their probe

A command without a database makes up its task.  The registry that holds this task is empty before,
so the first value that is drawn is free; that is enough, unless the configuration allows no draw at
all, which the rules for configurations do not forbid.  From then on the registry answers for the
task what was put into it, so whoever polls it finds the task running.

Main results:

* `drawUnused_empty` : the identity of the first task in a registry;
* `read?_insert` : a registry answers with the record that was put into it;
* `Watch.flags_pass_of_running` : a monitor that finds its task running changes no flag;
* `brief_task_runs_on` : a task that is made up is there, running, and not ended by its monitor;
* `refused_without_draws` : an accepted configuration for which there is no such task.
-/
import Reachability.Cli.Run
import Reachability.Proofs.Config.Rules
import Reachability.Proofs.Download.Cancellation

namespace Reachability

/-! ## Registries -/

namespace Registry

/-- In an empty registry the first value that is drawn is free; without a draw there is none. -/
theorem drawUnused_empty (budget : UInt32) (supply : IdentitySupply) :
    empty.drawUnused budget supply =
      if budget.toNat = 0 then (.error (.identityExhausted 0), supply)
      else (.ok supply.head, supply.tail) := by
  rw [drawUnused, drawUnusedIn, Reachability.drawUnused]
  cases h : budget.toNat with
  | zero => rfl
  | succ budget => rfl

/-- A registry answers with the record that was put into it. -/
theorem read?_insert (r : Registry) (record : TaskRecord) :
    (r.insert record).read? record.id = some record := by
  have absent : (r.erase record.id).records.find? (·.id = record.id) = none := by
    rw [List.find?_eq_none]
    intro other there
    simpa [erase] using (List.mem_filter.1 there).2
  rw [read?, insert, List.find?_append, absent, Option.none_or]
  simp

end Registry

/-! ## Monitors -/

/-- A read that finds the task running publishes that the download may go on. -/
theorem Flags.polled_of_running {record : Option TaskRecord} {identity : Identity}
    (running : evaluate record identity = .running) :
    Flags.polled (.ok record) identity = .initial := by
  rw [Flags.polled, running]
  rfl

/-- A monitor that finds its task running changes no flag, however much time passes. -/
theorem Watch.flags_pass_of_running {w : Watch} {record : Option TaskRecord}
    (running : evaluate record w.monitor.identity = .running) (before : w.flags = .initial)
    (times : List Duration) :
    (times.foldl (fun w time => w.pass time (.ok record)) w).flags = .initial := by
  induction times generalizing w with
  | nil => exact before
  | cons time times ih =>
    refine ih running ?_
    dsimp only [pass]
    split
    · exact before
    · exact Flags.polled_of_running running

/-- A transfer that hears only that its task runs keeps its flags. -/
theorem Download.Transfer.flags_run_of_running {t : Transfer} {record : Option TaskRecord}
    (running : evaluate record t.identity = .running) (before : t.flags = .initial)
    (tree : File.Tree) {events : List Event}
    (steady : ∀ read, .polled read ∈ events → read = .ok record) :
    (t.run tree events).1.flags = .initial := by
  rw [flags_run]
  cases last : (t.heard tree events).getLast? with
  | none => exact before
  | some read =>
    have polled := polled_mem_of_mem_heard (List.mem_of_getLast? last)
    rw [steady read polled, Option.elim_some, Flags.polled_of_running running]

namespace Cli

/-! ## Tasks that are made up -/

/-- **A task that is made up runs on.**  If the configuration allows a draw, there is a task for
every kind of probe, address and port.  What reads the store of this task gets its record back, and
finds it running; so no monitor of it changes its flags, and no transfer that is polled with such
reads is cut short unless the caller gives up. -/
theorem brief_task_runs_on (c : Config) (supply : IdentitySupply) (kind : AccessType)
    (address : String) (port : UInt16) (draws : 1 ≤ c.identity.retryBudget.toNat) :
    ∃ a, briefTask c.identity.retryBudget supply kind address port = .ok a ∧
      a.task.accessType = kind ∧ a.task.address = address ∧ a.task.port = port ∧
      a.read a.task.id = .ok (some a.task.record) ∧ a.task.record.running = true ∧
      evaluate (some a.task.record) a.task.identity = .running ∧
      (∀ interval (times : List Duration),
        (times.foldl (fun w time => w.pass time (a.read a.task.id))
          (Watch.start ⟨a.task.id, a.task.identity, interval⟩)).flags = Flags.initial) ∧
      ∀ goal interrupted tree (events : List Download.Event),
        (∀ read, .polled read ∈ events → read = a.read a.task.id) →
        let t := Download.Transfer.start c.download a.task.identity goal interrupted
        (t.run tree events).1.flags = .initial ∧
          ((t.run tree events).1.phase.copied? = some .aborted →
            interrupted = true ∨ .interrupt ∈ events) := by
  have drawn : Registry.empty.drawUnused c.identity.retryBudget supply =
      (.ok supply.head, supply.tail) := by
    rw [Registry.drawUnused_empty, if_neg (Nat.pos_iff_ne_zero.1 draws)]
  let task : NetworkTask := ⟨briefTaskId, supply.head, kind, address, port, 0, true⟩
  have read : (Registry.empty.insert task.record).read? task.id = some task.record :=
    Registry.read?_insert .empty task.record
  have running : evaluate (some task.record) task.identity = .running :=
    evaluate_eq_running_iff.2 ⟨task.record, rfl, rfl, rfl⟩
  refine ⟨⟨task, fun id => .ok ((Registry.empty.insert task.record).read? id)⟩,
    ?_, rfl, rfl, rfl, ?_, rfl, running, ?_, ?_⟩
  · rw [briefTask, drawn]
    rfl
  · exact congrArg Except.ok read
  · intro interval times
    dsimp only
    rw [read]
    exact Watch.flags_pass_of_running running rfl times
  · intro goal interrupted tree events steady
    dsimp only at steady
    rw [read] at steady
    refine ⟨Download.Transfer.flags_run_of_running running rfl tree steady, fun aborted => ?_⟩
    rcases Download.Transfer.cause_of_aborted rfl rfl events aborted with gone | gone | heard
    · exact .inl gone
    · exact .inr gone
    · obtain ⟨record, heard, against⟩ := heard
      have same := steady _ (Download.Transfer.polled_mem_of_mem_heard heard)
      rw [Except.ok.inj same] at against
      exact absurd running against

/-- One draw is enough, and the identity is the value that is drawn. -/
theorem brief_task_with_one_draw :
    let c : Config := { Config.default "/tmp" with identity := { retryBudget := 1 } }
    1 ≤ c.identity.retryBudget.toNat ∧
    ∃ a, briefTask 1 (.ofValues fun _ => -7) .connect "h" 80 = .ok a ∧
      a.read 1 = .ok (some ⟨1, -7, true⟩) ∧ evaluate (some ⟨1, -7, true⟩) (-7) = .running := by
  intro c
  have draws : 1 ≤ c.identity.retryBudget.toNat := by decide
  obtain ⟨a, made, -, -, -, read, -, running, -⟩ :=
    brief_task_runs_on c (.ofValues fun _ => -7) .connect "h" 80 draws
  obtain rfl := Except.ok.inj made
  exact ⟨draws, _, rfl, read, running⟩

/-- An accepted configuration may allow no draw, and then there is no task. -/
theorem refused_without_draws :
    ({ Config.default "/tmp" with identity := { retryBudget := 0 } } : Config).validate = .ok () ∧
      briefTask 0 (.ofValues fun _ => -7) .connect "h" 80 =
        .error (.identity (.identityExhausted 0)) :=
  ⟨by decide +kernel, rfl⟩

end Cli
end Reachability
