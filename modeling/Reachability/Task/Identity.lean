/-
# Identities

Each schedule of a task gets an identity that no stored task carries.  Values are taken
from an endless supply and looked up one after the other, until one is free or the retry
budget is spent.

Main definitions:

* `IdentitySupply` : the endless supply of values;
* `drawUnused` : the first value that is free.
-/
import Reachability.Error

namespace Reachability

/-! ## Supply -/

/-- An endless supply of values, of which the first `drawn` ones are used up. -/
structure IdentitySupply where
  value : Nat → Identity
  drawn : Nat

namespace IdentitySupply

/-- A supply of which nothing is used up. -/
def ofValues (value : Nat → Identity) : IdentitySupply := ⟨value, 0⟩

/-- The next value. -/
def head (s : IdentitySupply) : Identity := s.value s.drawn

/-- The supply without its next value. -/
def tail (s : IdentitySupply) : IdentitySupply := { s with drawn := s.drawn + 1 }

end IdentitySupply

/-! ## Drawing -/

/-- What a draw ended with, the supply that it left, and the state of the look-ups. -/
structure Draw (σ : Type) where
  result : Except Error Identity
  supply : IdentitySupply
  state : σ

/-- Looks values up one after the other, at most `remaining` of them.  The first that is
not in use is drawn; a look-up that fails ends the draw. -/
def drawWithin {σ : Type} (inUse : Identity → σ → Except Error Bool × σ) (budget : Nat) :
    Nat → IdentitySupply → σ → Draw σ
  | 0, supply, state => ⟨.error (.identityExhausted budget), supply, state⟩
  | remaining + 1, supply, state =>
      match inUse supply.head state with
      | (.ok false, state) => ⟨.ok supply.head, supply.tail, state⟩
      | (.ok true, state) => drawWithin inUse budget remaining supply.tail state
      | (.error e, state) => ⟨.error e, supply.tail, state⟩

/-- The first value that is not in use, found with no more look-ups than the budget. -/
def drawUnused {σ : Type} (inUse : Identity → σ → Except Error Bool × σ) (budget : UInt32)
    (supply : IdentitySupply) (state : σ) : Draw σ :=
  drawWithin inUse budget.toNat budget.toNat supply state

/-- The first value that a fixed look-up does not find. -/
def drawUnusedIn (inUse : Identity → Except Error Bool) (budget : UInt32)
    (supply : IdentitySupply) : Except Error Identity × IdentitySupply :=
  let draw := drawUnused (fun identity (_ : Unit) => (inUse identity, ())) budget supply ()
  (draw.result, draw.supply)

end Reachability
