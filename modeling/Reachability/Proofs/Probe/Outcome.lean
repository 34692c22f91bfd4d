/-
# Printed outcomes

The outcome of a connect or a download is told by its JSON, which other programs read: it reads back
as the same outcome, whatever texts and numbers are in it.  Pings are left out, as their statistics
hold doubles.

Main results:

* `ProbeError.ofDocument?_toDocument` and its companions for summaries and results of downloads;
* `Outcome.isExact_toDocument` : the document of an outcome is one that JSON tells exactly;
* `printed_outcome_read` : the printed outcome is read as the outcome.
-/
import Reachability.Cli.Run
import Reachability.Proofs.Config.Document

namespace Reachability

open Document

/-! ## Errors -/

namespace ProbeError

/-- An error is read from its own document, whether it has a text or not. -/
theorem ofDocument?_toDocument (e : ProbeError) : ofDocument? e.toDocument = some e := by
  cases e <;> rfl

theorem toDocument_ne_null (e : ProbeError) : e.toDocument ≠ .null := by
  cases e <;> simp [toDocument]

theorem isExact_toDocument (e : ProbeError) : Json.IsExact e.toDocument := by
  cases e with
  | timeout | connectionRefused | hostUnreachable | networkUnreachable | permissionDenied
  | fileName | interrupted => exact .text _
  | invalidTarget t | dnsResolution t | spawn t | http t | invalidUrl t | fileSystem t | ioError t
  | internal t => exact .of_forall (.text t)

end ProbeError

/-- What may be missing is told exactly if it is when it is there. -/
theorem Json.isExact_optional {α : Type} {write : α → Document} (exact : ∀ a, IsExact (write a))
    (given : Option α) : IsExact ((given.map write).getD .null) := by
  cases given with
  | none => exact .null
  | some a => exact exact a

/-! ## Summaries -/

namespace AttemptSummary

theorem ofDocument?_toDocument (s : AttemptSummary) : ofDocument? s.toDocument = some s := by
  have given : s.toDocument.fields? .json fieldNames = some
      ([.bool s.success, .integer s.attempts.toNat, .integer s.successfulAttempts.toNat,
        .integer s.timeouts.toNat, .integer s.errors.toNat, s.averageDuration.toDocument,
        (s.lastError.map ProbeError.toDocument).getD .null].map some) :=
    fields?_of_reorders (by decide) _ (.table (.refl _)) rfl
  rw [ofDocument?, given]
  simp [required, asBool?, asUInt32?_toNat, Duration.ofDocument?_toDocument,
    optional_map ProbeError.ofDocument?_toDocument ProbeError.toDocument_ne_null]

theorem isExact_toDocument (s : AttemptSummary) : Json.IsExact s.toDocument :=
  .of_forall ⟨.bool _, isExact_uint32 _, isExact_uint32 _, isExact_uint32 _, isExact_uint32 _,
    s.averageDuration.isExact_toDocument, Json.isExact_optional ProbeError.isExact_toDocument _⟩

end AttemptSummary

/-! ## Results of downloads -/

namespace Download.Result

theorem code?_toNat (code : UInt16) : code? (.integer code.toNat) = some code := by
  simp [code?, asNatBelow?_natCast code.toNat_lt_size]

theorem ofDocument?_toDocument (r : Result) : ofDocument? r.toDocument = some r := by
  have given : r.toDocument.fields? .json fieldNames = some
      ([.bool r.connectSuccess, .bool r.transferSuccess, .bool r.fileExists, .bool r.deleteSuccess,
        .bool r.valid, .bool r.stopped, .list (r.httpCodes.map fun code => .integer code.toNat),
        .list (r.httpMessages.map .text), .list (r.diagnostics.map .text),
        (r.fileName.map Document.text).getD .null, .text r.url,
        .integer r.bytesTransferred.toNat, r.duration.toDocument,
        (r.error.map ProbeError.toDocument).getD .null].map some) :=
    fields?_of_reorders (by decide) _ (.table (.refl _)) rfl
  have codes := asListOf?_map (fun code : UInt16 => .integer code.toNat) code?_toNat r.httpCodes
  have name := @optional_map String asText? .text r.toDocument.isPositional (fun _ => rfl)
    (fun _ => by simp) r.fileName
  rw [ofDocument?, given]
  simp [required, asBool?, asText?, codes, asListOf?_texts, name, asUInt64?_toNat,
    Duration.ofDocument?_toDocument,
    optional_map ProbeError.ofDocument?_toDocument ProbeError.toDocument_ne_null]

theorem isExact_toDocument (r : Result) : Json.IsExact r.toDocument := by
  have codes : Json.IsExact (.list (r.httpCodes.map fun code => .integer code.toNat)) := by
    refine .list fun d there => ?_
    obtain ⟨code, -, rfl⟩ := List.mem_map.1 there
    exact .natCast (Nat.lt_trans code.toNat_lt_size (by decide))
  exact .of_forall ⟨.bool _, .bool _, .bool _, .bool _, .bool _, .bool _, codes, isExact_texts _,
    isExact_texts _, Json.isExact_optional .text _, .text _,
    .natCast r.bytesTransferred.toNat_lt_size, r.duration.isExact_toDocument,
    Json.isExact_optional ProbeError.isExact_toDocument _⟩

end Download.Result

/-! ## Outcomes -/

namespace Outcome

variable {o : Outcome}

/-- The tag of an outcome is the name of its kind. -/
theorem tag_eq_name (o : Outcome) : o.tag = o.kind.name := by
  cases o <;> rfl

/-- An outcome that is no ping is read from its own document. -/
theorem ofDocument?_toDocument (counted : o.kind ≠ .ping) : ofDocument? o.toDocument = some o := by
  have given : o.toDocument.fields? .json fieldNames =
      some ([.text o.tag, o.resultDocument].map some) :=
    fields?_of_reorders (by decide) _ (.table (.refl _)) rfl
  have result : ofResult? o.tag o.resultDocument = some o := by
    cases o with
    | ping r => exact absurd rfl counted
    | connect s => simp [tag, resultDocument, ofResult?, AttemptSummary.ofDocument?_toDocument]
    | download r => simp [tag, resultDocument, ofResult?, Download.Result.ofDocument?_toDocument]
  rw [ofDocument?, given]
  simp [asName?, result]

theorem isExact_toDocument (counted : o.kind ≠ .ping) : Json.IsExact o.toDocument := by
  have result : Json.IsExact o.resultDocument := by
    cases o with
    | ping r => exact absurd rfl counted
    | connect s => exact s.isExact_toDocument
    | download r => exact r.isExact_toDocument
  exact .of_forall ⟨.text _, result⟩

/-- **Printed outcomes are read.**  What is printed as JSON about a connect or a download is a text
that reads back as the outcome, and gives the name of its kind under `kind`. -/
theorem printed_outcome_read (options : Cli.Options) (json : options.json = true)
    (counted : o.kind ≠ .ping) :
    (Json.read? (options.show o)).bind ofDocument? = some o ∧
      (Json.read? (options.show o)).bind (get? "kind") = some (.text o.kind.name) := by
  have shown : options.show o = Json.pretty o.toDocument ++ String.ofList ['\n'] := by
    rw [Cli.Options.show, if_pos json]
  have read : Json.read? (options.show o) = some o.toDocument := by
    rw [shown]
    exact Json.read?_pretty_append (isExact_toDocument counted) (by decide)
  rw [read, Option.bind_some, Option.bind_some, ofDocument?_toDocument counted, ← tag_eq_name]
  exact ⟨rfl, rfl⟩

/-- A download that failed behind a redirect, with quotes, line ends and other letters in its
texts. -/
theorem printed_download_read :
    let r : Download.Result :=
      { connectSuccess := true, httpCodes := [302, 200], httpMessages := ["Found", "\"ok\"\t\\"]
        diagnostics := ["line\nbreak \x07"], fileName := some "naïve ☃.txt", url := "http://h/é"
        bytesTransferred := 18446744073709551615, duration := .ofMillis 1500
        error := some (.ioError "\"quoted\" \\ 🙂") }
    let options : Cli.Options := { json := true }
    options.json = true ∧ (download r).kind ≠ .ping ∧
      (Json.read? (options.show (download r))).bind ofDocument? = some (download r) ∧
      (Json.read? (options.show (download r))).bind (get? "kind") = some (.text "download") := by
  intro r options
  have counted : (download r).kind ≠ .ping := by decide
  exact ⟨rfl, counted, printed_outcome_read options rfl counted⟩

end Outcome
end Reachability
