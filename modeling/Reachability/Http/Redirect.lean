/-
# Redirects

An answer may name another place to ask.  Such places are followed one by one, up to a
limit; one that cannot be followed leaves a note.

Main definitions:

* `Redirect.Problem` : why a redirect is not followed, `Problem.note` in words;
* `Redirect.Joining`, `Redirect.resolve` : the URL that an answer names;
* `Redirect.Chain` : the redirects followed so far, with `Chain.next`.
-/
import Reachability.Http.Message
import Reachability.Text.Blank
import Reachability.Url.Reader

namespace Reachability.Redirect

open Http

/-! ## Problems -/

/-- Why a redirect is not followed. -/
inductive Problem
  | missing
  /-- The place is given in bytes that are no visible ASCII. -/
  | notText
  | empty
  | invalid (location : String) (error : UrlError)
  | unsupportedScheme (scheme : String)
  /-- As many redirects as allowed were followed already. -/
  | limitReached (limit : UInt32) (place : Url)
deriving DecidableEq, Repr

/-- A problem in words. -/
def Problem.note : Problem → String
  | missing => "redirect without Location header"
  | notText => "Location header is not valid text"
  | empty => "empty Location header"
  | invalid location e => "invalid Location '" ++ location ++ "': " ++ e.message
  | unsupportedScheme scheme => "unsupported redirect scheme '" ++ scheme ++ "'"
  | limitReached limit place =>
      "redirect limit of " ++ Decimal.ofNat limit.toNat ++ " reached at " ++ place.text

/-! ## The named place -/

/-- How a text is read as a URL, relative to another one. -/
abbrev Joining := Url → String → Except UrlError Url

/-- The URL that an answer names, relative to the URL that gave the answer. -/
def resolve (base : Url) (location : Option HeaderValue) (join : Joining := Url.join) :
    Except Problem Url := do
  let some value := location | throw .missing
  let some raw := value.text? | throw .notText
  let place := Text.stripped raw
  if place.isEmpty then throw .empty
  match join base place with
  | .error e => throw (.invalid place e)
  | .ok target =>
      if Url.isTransferScheme target.scheme then return target
      else throw (.unsupportedScheme target.scheme)

/-! ## Chains -/

/-- What is done about an answer. -/
inductive Step
  /-- Ask at another place. -/
  | follow (target : Url)
  /-- The answer is the last one. -/
  | final
  /-- The answer is the last one because its redirect is not followed. -/
  | rejected (problem : Problem)
deriving DecidableEq, Repr

/-- The redirects followed so far. -/
structure Chain where
  /-- Whether redirects are followed at all. -/
  enabled : Bool
  limit : UInt32
  hops : UInt32 := 0
  hops_le : hops ≤ limit := by simp
deriving DecidableEq, Repr

namespace Chain

/-- No redirect followed yet. -/
def start (enabled : Bool) (limit : UInt32) : Chain := { enabled, limit, hops_le := UInt32.zero_le }

theorem succ_le {hops limit : UInt32} (h : hops < limit) : hops + 1 ≤ limit := by
  rw [UInt32.le_iff_toNat_le, UInt32.toNat_add]
  rw [UInt32.lt_iff_toNat_lt] at h
  have := limit.toNat_lt
  simp only [UInt32.toNat_one]
  omega

/-- What is done about the answer of a place. -/
def next (c : Chain) (place : Url) (status : Status) (location : Option HeaderValue)
    (join : Joining := Url.join) : Chain × Step :=
  if !c.enabled || !status.isRedirect then (c, .final)
  else if h : c.hops < c.limit then
    match resolve place location join with
    | .ok target => ({ c with hops := c.hops + 1, hops_le := succ_le h }, .follow target)
    | .error problem => (c, .rejected problem)
  else (c, .rejected (.limitReached c.limit place))

/-- The number of redirects that may still be followed. -/
def left (c : Chain) : Nat := c.limit.toNat - c.hops.toNat

end Chain
end Reachability.Redirect
