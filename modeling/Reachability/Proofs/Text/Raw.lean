/-
# Raw texts and texts

A text stands for its bytes, and the bytes of a text stand for no other one.  Raw texts that are
those of a text are told apart by reading them.

Main results:

* `ofText_inj`, `shown_ofText` : the bytes of a text tell the text;
* `isText_iff`, `ofText_shown` : what is read as a text are the bytes of the text that is shown.
-/
import Reachability.Proofs.Text.Utf8
import Reachability.Text.Raw

namespace Reachability.RawText

theorem ofText_inj {s s' : String} : ofText s = ofText s' ↔ s = s' := by
  rw [ofText, ofText, mk.injEq, Utf8.encode_inj, String.toList_inj]

@[simp]
theorem text?_ofText (s : String) : (ofText s).text? = some s := by
  rw [text?, ofText, Utf8.decode?_encode, Option.map_some, String.ofList_toList]

@[simp]
theorem shown_ofText (s : String) : (ofText s).shown = s := by
  rw [shown, ofText, Utf8.decodeLossy_encode, String.ofList_toList]

/-- What is read as a text are the bytes of that text. -/
theorem eq_ofText_of_text? {r : RawText} {s : String} (h : r.text? = some s) : r = ofText s := by
  obtain ⟨cs, hcs, rfl⟩ := Option.map_eq_some_iff.1 h
  rw [ofText, String.toList_ofList, Utf8.encode_of_decode? hcs]

theorem isText_iff {r : RawText} : r.isText = true ↔ ∃ s, r = ofText s := by
  rw [isText, Option.isSome_iff_exists]
  constructor
  · rintro ⟨s, h⟩
    exact ⟨s, eq_ofText_of_text? h⟩
  · rintro ⟨s, rfl⟩
    exact ⟨s, text?_ofText s⟩

@[simp]
theorem isText_ofText (s : String) : (ofText s).isText = true := isText_iff.2 ⟨s, rfl⟩

/-- Nothing is lost when a text is shown. -/
theorem ofText_shown {r : RawText} (h : r.isText = true) : ofText r.shown = r := by
  obtain ⟨s, rfl⟩ := isText_iff.1 h
  rw [shown_ofText]

end Reachability.RawText
