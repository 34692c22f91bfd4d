/-
# Drawn identities

A draw looks values up one after the other, and a look-up may answer by all that was asked before
it.  So the look-ups are numbered from zero: each has the value of the supply that comes next, and
the state that the ones before it left.  The draw ends at the first that does not find its value in
use, if that comes within the budget.

Main definitions:

* `IdentitySupply.get`, `IdentitySupply.drop`, `IdentitySupply.take` : the values to come;
* `stateBefore`, `answerAt` : the look-ups of a supply, one after the other;
* `recorded` : look-ups that write down what they are asked.

Main results:

* `drawWithin_of_answered` : a draw that ends at a look-up;
* `drawWithin_of_found` : a draw for which every value is in use;
* `drawn_at_first_free` : **the first value that is free is drawn**, and no stored task carries it.
-/
import Reachability.Proofs.Task.Change
import Reachability.Task.Registry

namespace Reachability

/-! ## Supplies -/

namespace IdentitySupply

variable {s : IdentitySupply} {n : Nat}

/-- The value in front of which some others stand. -/
def get (s : IdentitySupply) (n : Nat) : Identity := s.value (s.drawn + n)

/-- The supply without its first values. -/
def drop (s : IdentitySupply) (n : Nat) : IdentitySupply := { s with drawn := s.drawn + n }

/-- The first values in order. -/
def take (s : IdentitySupply) (n : Nat) : List Identity := (List.range n).map s.get

theorem get_tail : s.tail.get n = s.get (n + 1) := by
  rw [get, get, tail, Nat.add_assoc, Nat.add_comm 1 n]

theorem drop_tail : s.tail.drop n = s.drop (n + 1) := by
  rw [drop, drop, tail, Nat.add_assoc, Nat.add_comm 1 n]

theorem take_succ : s.take (n + 1) = s.head :: s.tail.take n := by
  rw [take, take, List.range_succ_eq_map, List.map_cons, List.map_map]
  exact congrArg _ (List.map_congr_left fun i _ => get_tail.symm)

end IdentitySupply

/-! ## Look-ups one after the other -/

section Lookups

variable {σ : Type} (inUse : Identity → σ → Except Error Bool × σ)

/-- The state that the look-ups before one leave to it. -/
def stateBefore (supply : IdentitySupply) (state : σ) : Nat → σ
  | 0 => state
  | n + 1 => stateBefore supply.tail (inUse supply.head state).2 n

/-- What a look-up answers. -/
def answerAt (supply : IdentitySupply) (state : σ) (n : Nat) : Except Error Bool :=
  (inUse (supply.get n) (stateBefore inUse supply state n)).1

/-- Look-ups that write down what they are asked. -/
def recorded (identity : Identity) (state : σ × List Identity) :
    Except Error Bool × σ × List Identity :=
  let (answer, after) := inUse identity state.1
  (answer, after, state.2 ++ [identity])

variable {inUse} {supply : IdentitySupply} {state : σ}

/-- Behind the first look-up the others are those of the rest of the supply. -/
theorem answerAt_tail (n : Nat) :
    answerAt inUse supply.tail (inUse supply.head state).2 n =
      answerAt inUse supply state (n + 1) := by
  rw [answerAt, answerAt, IdentitySupply.get_tail, stateBefore]

theorem stateBefore_recorded (asked : List Identity) (n : Nat) :
    stateBefore (recorded inUse) supply (state, asked) n =
      (stateBefore inUse supply state n, asked ++ supply.take n) := by
  induction n generalizing supply state asked with
  | zero => exact congrArg _ (List.append_nil asked).symm
  | succ n ih =>
    rw [stateBefore, stateBefore, IdentitySupply.take_succ]
    exact (ih _).trans (by rw [List.append_assoc, List.singleton_append])

/-- Writing down what is asked changes no answer. -/
theorem answerAt_recorded (asked : List Identity) (n : Nat) :
    answerAt (recorded inUse) supply (state, asked) n = answerAt inUse supply state n := by
  rw [answerAt, stateBefore_recorded]
  rfl

/-! ## Draws -/

variable {budget remaining : Nat}

/-- A value that is in use is passed over. -/
theorem drawWithin_of_head_found (found : (inUse supply.head state).1 = .ok true) :
    drawWithin inUse budget (remaining + 1) supply state =
      drawWithin inUse budget remaining supply.tail (inUse supply.head state).2 := by
  rw [drawWithin]
  generalize inUse supply.head state = lookup at found
  obtain ⟨answer, after⟩ := lookup
  obtain rfl : answer = .ok true := found
  rfl

/-- A value that is free is drawn, and a problem is passed on. -/
theorem drawWithin_of_head_answered (other : (inUse supply.head state).1 ≠ .ok true) :
    drawWithin inUse budget (remaining + 1) supply state =
      ⟨(inUse supply.head state).1.map fun _ => supply.head, supply.tail,
        (inUse supply.head state).2⟩ := by
  rw [drawWithin]
  generalize inUse supply.head state = lookup at other
  obtain ⟨answer, after⟩ := lookup
  cases answer with
  | error _ => rfl
  | ok used =>
    cases used with
    | false => rfl
    | true => exact absurd rfl other

/-- The first look-up that does not find its value in use ends the draw: with the value if it is
free, with the problem if there is one. -/
theorem drawWithin_of_answered {j : Nat} (found : ∀ i < j, answerAt inUse supply state i = .ok true)
    (other : answerAt inUse supply state j ≠ .ok true) (within : j < remaining) :
    drawWithin inUse budget remaining supply state =
      ⟨(answerAt inUse supply state j).map fun _ => supply.get j, supply.drop (j + 1),
        stateBefore inUse supply state (j + 1)⟩ := by
  -- behind its first look-up a draw is a draw over the rest of the supply
  induction j generalizing remaining supply state with
  | zero =>
    obtain ⟨remaining, rfl⟩ := Nat.exists_eq_succ_of_ne_zero (Nat.ne_of_gt within)
    exact drawWithin_of_head_answered other
  | succ j ih =>
    obtain ⟨remaining, rfl⟩ := Nat.exists_eq_succ_of_ne_zero (Nat.ne_zero_of_lt within)
    have later : ∀ i < j,
        answerAt inUse supply.tail (inUse supply.head state).2 i = .ok true := fun i before =>
      (answerAt_tail i).trans (found (i + 1) (Nat.succ_lt_succ before))
    have first : (inUse supply.head state).1 = .ok true := found 0 (Nat.succ_pos j)
    rw [← answerAt_tail] at other ⊢
    rw [drawWithin_of_head_found first, ih later other (Nat.lt_of_succ_lt_succ within),
      IdentitySupply.get_tail, IdentitySupply.drop_tail, ← stateBefore]

/-- If every value is found in use the draw ends with its budget. -/
theorem drawWithin_of_found (found : ∀ i < remaining, answerAt inUse supply state i = .ok true) :
    drawWithin inUse budget remaining supply state =
      ⟨.error (.identityExhausted budget), supply.drop remaining,
        stateBefore inUse supply state remaining⟩ := by
  induction remaining generalizing supply state with
  | zero => rfl
  | succ remaining ih =>
    have later : ∀ i < remaining,
        answerAt inUse supply.tail (inUse supply.head state).2 i = .ok true := fun i before =>
      (answerAt_tail i).trans (found (i + 1) (Nat.succ_lt_succ before))
    have first : (inUse supply.head state).1 = .ok true := found 0 (Nat.succ_pos remaining)
    rw [drawWithin_of_head_found first, ih later, IdentitySupply.drop_tail, ← stateBefore]

end Lookups

/-! ## Stores -/

/-- An identity that is drawn for a registry is carried by no task of it. -/
theorem Registry.isFree_of_drawUnused {r : Registry} {budget : UInt32} {supply : IdentitySupply}
    {identity : Identity} (drawn : (r.drawUnused budget supply).1 = .ok identity) :
    ∀ record ∈ r.records, record.identity ≠ identity := by
  obtain ⟨_, free⟩ := exists_lookup_of_drawWithin drawn
  simpa [carries] using free

/-- **The first value that is free is drawn.**  If the first look-up that does not find its value in
use comes within the budget, the draw ends with it: with its value if that is free, with its problem
otherwise; and what was looked up are the values up to there, in order.  If all look-ups of the
budget find their value in use, these are made, and the budget is exhausted.  So what is drawn for a
store is carried by no task of it. -/
theorem drawn_at_first_free {σ : Type} (inUse : Identity → σ → Except Error Bool × σ)
    (budget : UInt32) (supply : IdentitySupply) (state : σ) :
    let draw := drawUnused inUse budget supply state
    let asked := (drawUnused (recorded inUse) budget supply (state, [])).state.2
    (∀ j < budget.toNat, (∀ i < j, answerAt inUse supply state i = .ok true) →
      (answerAt inUse supply state j = .ok false →
        draw.result = .ok (supply.get j) ∧ asked = supply.take (j + 1)) ∧
      ∀ e, answerAt inUse supply state j = .error e →
        draw.result = .error e ∧ asked = supply.take (j + 1)) ∧
    ((∀ i < budget.toNat, answerAt inUse supply state i = .ok true) →
      draw.result = .error (.identityExhausted budget.toNat) ∧
        asked = supply.take budget.toNat) ∧
    (∀ (r : Registry) identity, (r.drawUnused budget supply).1 = .ok identity →
      ∀ record ∈ r.records, record.identity ≠ identity) ∧
    ∀ (db : TaskDatabase) identity, (db.drawUnused supply).1 = .ok identity →
      ∀ row ∈ db.table.rows, ¬row.Carries identity := by
  intro draw asked
  have ends {j : Nat} (within : j < budget.toNat)
      (found : ∀ i < j, answerAt inUse supply state i = .ok true)
      (other : answerAt inUse supply state j ≠ .ok true) :
      draw.result = ((answerAt inUse supply state j).map fun _ => supply.get j) ∧
        asked = supply.take (j + 1) := by
    refine ⟨congrArg Draw.result (drawWithin_of_answered found other within), ?_⟩
    -- written down or not, the answers are the same, and the draw ends at the same look-up
    have written :
        drawWithin (recorded inUse) budget.toNat budget.toNat supply (state, []) = _ :=
      drawWithin_of_answered (by simpa only [answerAt_recorded] using found)
        (by rwa [answerAt_recorded]) within
    exact (congrArg (·.state.2) written).trans (by rw [stateBefore_recorded])
  refine ⟨fun j within found => ⟨fun free => ?_, fun e problem => ?_⟩, fun found => ⟨?_, ?_⟩,
    fun r identity => Registry.isFree_of_drawUnused, fun db identity drawn => ?_⟩
  · obtain ⟨result, written⟩ := ends within found (by rw [free]; simp)
    exact ⟨by rw [result, free]; rfl, written⟩
  · obtain ⟨result, written⟩ := ends within found (by rw [problem]; simp)
    exact ⟨by rw [result, problem]; rfl, written⟩
  · exact congrArg Draw.result (drawWithin_of_found found)
  · have written :
        drawWithin (recorded inUse) budget.toNat budget.toNat supply (state, []) = _ :=
      drawWithin_of_found (by simpa only [answerAt_recorded] using found)
    exact (congrArg (·.state.2) written).trans (by rw [stateBefore_recorded])
  · have free := TaskDatabase.isFree_of_drawUnused (Prod.ext drawn rfl)
    exact Table.carries_eq_false_iff.1 free

/-- A look-up that finds the first two values in use, whatever they are: the third is drawn with a
budget of three, and none with a budget of two. -/
theorem drawn_at_limit_of_budget :
    let inUse (_ : Identity) (made : Nat) : Except Error Bool × Nat := (.ok (made < 2), made + 1)
    let supply := IdentitySupply.ofValues fun n => .ofNat (7 + n)
    (∀ i < 2, answerAt inUse supply 0 i = .ok true) ∧ answerAt inUse supply 0 2 = .ok false ∧
      (drawUnused inUse 3 supply 0).result = .ok 9 ∧
      (drawUnused (recorded inUse) 3 supply (0, [])).state.2 = [7, 8, 9] ∧
      (drawUnused inUse 2 supply 0).result = .error (.identityExhausted 2) := by
  intro inUse supply
  have found : ∀ i < 2, answerAt inUse supply 0 i = .ok true := by decide
  have free : answerAt inUse supply 0 2 = .ok false := rfl
  obtain ⟨ends, -⟩ := drawn_at_first_free inUse 3 supply 0
  obtain ⟨result, asked⟩ := (ends 2 (by decide) found).1 free
  obtain ⟨-, exhausted, -⟩ := drawn_at_first_free inUse 2 supply 0
  exact ⟨found, free, result, asked, (exhausted found).1⟩

end Reachability
