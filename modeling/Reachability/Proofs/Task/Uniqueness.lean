/-
# Unique identities and keys

Whatever a task database is asked, its rows keep pairwise different identities, and no key is
given out twice.  Both come from what a single call can do.

Main definitions:

* `Session.keys` : the keys that were given out in a run.

Main results:

* `Changes.identitiesDistinct` : one call keeps the identities different;
* `keys_increase` : the keys of a run grow;
* `identities_and_keys_unique` : the same for whole runs.
-/
import Reachability.Proofs.Task.Reading

namespace Reachability.TaskDatabase

/-! ## Identities -/

section Step

variable {t t' : Table} {call : Call} {answer : Answer}

/-- A call keeps the identities of the rows different. -/
theorem Changes.identitiesDistinct (c : Changes t call answer t')
    (distinct : t.IdentitiesDistinct) : t'.IdentitiesDistinct := by
  cases c with
  | inserted next free =>
    refine distinct.append fun identity carried => ?_
    rw [Row.Carries.unique carried rfl]
    exact Table.carries_eq_false_iff.1 free
  | rescheduled found free =>
    refine distinct.modify fun row identity carried => Or.inr ?_
    rw [Row.Carries.unique carried rfl]
    exact Table.carries_eq_false_iff.1 free
  | stopped found => exact distinct.modify fun row identity carried => Or.inl carried
  | deleted => exact distinct.erase
  | nothing quiet => exact distinct

/-! ## Keys -/

/-- The key that an answer gives out. -/
def Answer.key? : Answer → Option TaskId
  | inserted task => some task.id
  | _ => none

/-- A key that is given out is the next after the largest, and the largest from then on. -/
theorem Changes.toInt_key {id : TaskId} (c : Changes t call answer t')
    (given : answer.key? = some id) :
    id.toInt = t.largestId + 1 ∧ id.toInt = t'.largestId := by
  cases c with
  | inserted next free =>
    cases given
    have hid := Table.toInt_nextId next
    refine ⟨hid, ?_⟩
    simp only [Table.append, rowOf, taskWith] at hid ⊢
    omega
  | rescheduled found free => cases given
  | stopped found => cases given
  | deleted => cases given
  | nothing quiet => cases answer <;> cases quiet <;> cases given

end Step

namespace Session

/-- The keys that are given out in a run, in order. -/
def keys (s : Session) (calls : List Call) : List TaskId :=
  (s.log calls).filterMap fun entry => entry.2.key?

theorem keys_concat (s : Session) (calls : List Call) (call : Call) :
    s.keys (calls ++ [call]) = s.keys calls ++ ((s.run calls).step call).1.key?.toList := by
  rw [keys, log_concat, List.filterMap_append, ← keys]
  cases h : ((s.run calls).step call).1.key? <;> simp [h]

/-- The keys of a run grow, from above the largest key before to the largest key after. -/
theorem keys_increase (s : Session) (calls : List Call) :
    (s.keys calls).Pairwise (fun a b => a.toInt < b.toInt) ∧
      s.db.table.largestId ≤ (s.run calls).db.table.largestId ∧
      ∀ id ∈ s.keys calls, s.db.table.largestId < id.toInt ∧
        id.toInt ≤ (s.run calls).db.table.largestId := by
  induction calls using List.reverseRecOn with
  | nil => exact ⟨List.Pairwise.nil, Nat.le_refl _, fun id hid => absurd hid List.not_mem_nil⟩
  | append_singleton calls call ih =>
    obtain ⟨increase, grown, between⟩ := ih
    have c := changes_step (s.run calls) call
    have le := c.largestId_le
    rw [run_concat, keys_concat]
    refine ⟨?_, by omega, fun id hid => ?_⟩
    · refine List.pairwise_append.2 ⟨increase, by cases _ : Answer.key? _ <;> simp, ?_⟩
      intro a ha b hb
      have := (between a ha).2
      have := (c.toInt_key (Option.mem_toList.1 hb)).1
      omega
    · rcases List.mem_append.1 hid with hid | hid
      · have := between id hid
        omega
      · have := c.toInt_key (Option.mem_toList.1 hid)
        omega

end Session

/-! ## Runs -/

/-- After any calls the identities of the rows are different if they were before. -/
theorem identitiesDistinct_run {s : Session} (distinct : s.db.table.IdentitiesDistinct)
    (calls : List Call) : (s.run calls).db.table.IdentitiesDistinct := by
  induction calls using List.reverseRecOn with
  | nil => exact distinct
  | append_singleton calls call ih =>
    rw [Session.run_concat]
    exact (changes_step (s.run calls) call).identitiesDistinct ih

/-- **Identities are never shared and keys never given out twice.**  Along a run from different
identities the rows carry different identities, each schedule that is handed out has an identity
that no row carried, and each new task has a key that no other task ever had. -/
theorem identities_and_keys_unique (s : Session) (distinct : s.db.table.IdentitiesDistinct)
    (calls : List Call) :
    (s.run calls).db.table.IdentitiesDistinct ∧
      (∀ call record, handedOut call ((s.run calls).step call).1 = some record →
        (∀ row ∈ (s.run calls).db.table.rows, ¬ row.Carries record.identity) ∧
          ∃ row, ((s.run calls).step call).2.db.table.find? record.id = some row ∧
            row.Carries record.identity) ∧
      (∀ id identity, ((s.run calls).step (.reschedule id)).1 = .rescheduled identity →
        ∃ row, (s.run calls).db.table.find? id = some row ∧ ¬ row.Carries identity) ∧
      (s.keys calls).Nodup ∧ ∀ id ∈ s.keys calls, ∀ row ∈ s.db.table.rows, row.id ≠ id := by
  obtain ⟨increase, -, between⟩ := s.keys_increase calls
  refine ⟨identitiesDistinct_run distinct calls, fun call record handed => ?_,
    fun id identity answered => ?_, ?_, fun id hid row hrow heq => ?_⟩
  · obtain ⟨free, row, hrow, hrecord⟩ :=
      (changes_step (s.run calls) call).shows_of_handedOut handed
    exact ⟨Table.carries_eq_false_iff.1 free, row, hrow, (recordOf_eq_ok_iff.1 hrecord).2.1⟩
  · have c := changes_step (s.run calls) (.reschedule id)
    rw [answered] at c
    exact c.differs_of_rescheduled
  · exact increase.imp fun lt heq => absurd lt (by rw [heq]; exact Int.lt_irrefl _)
  · have := s.db.table.id_le row hrow
    have := (between id hid).1
    rw [heq] at *
    omega

/-- Two tasks, the second of which makes room for a third, drawn from a supply in which each
value comes twice. -/
theorem identities_and_keys_unique_after_deletion :
    let task : NewTask := ⟨.download, "http://127.0.0.1/a", 0, 15, true⟩
    let s := Session.new 2 (.ofValues fun n => .ofNat (n / 2))
    let calls : List Call := [.insert task, .insert task, .stop 2, .reschedule 1, .delete 2,
      .reopen 3, .insert task]
    s.db.table.IdentitiesDistinct ∧ s.keys calls = [1, 2, 3] ∧ (s.keys calls).Nodup ∧
      (s.run calls).db.table.IdentitiesDistinct := by
  intro task s calls
  obtain ⟨distinct, -, -, nodup, -⟩ :=
    identities_and_keys_unique s Table.identitiesDistinct_empty calls
  exact ⟨Table.identitiesDistinct_empty, by decide +kernel, nodup, distinct⟩

end Reachability.TaskDatabase
