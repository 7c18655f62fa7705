import CallBook.Proofs.Json.Values
import CallBook.Report.Lines

/-!
# The body in a report means what was received

A response in JSON is laid out anew in a report: it is read, and the value is written with
indentation. What was received may spell a string with escapes that are not needed, or give a member
more than once; the value that is read is the same as that of the text in the report
(`Json.parse_pretty`). A second time there is nothing left to lay out, because that text is written
from the same value.

Main result: `prettyText_keeps`.
-/

namespace CallBook.Report

open Json (Value)

/-- A body that is a JSON document is shown as its pretty text. -/
theorem prettyText_of_parse {body : String} {v : Value} (h : Json.parse body = .ok v) :
    prettyText body = v.pretty := by
  rw [prettyText, h]

/-- Any other body is shown as it is. -/
theorem prettyText_of_error {body e : String} (h : Json.parse body = .error e) :
    prettyText body = body := by
  rw [prettyText, h]

/-- **The body in a report means what was received.** If a body is read as JSON, and every number in
it as an integer, its text in the report is read as the same value. Every body with that value has
the same text in the report, so that laying it out again changes nothing. A body that is not read as
JSON is shown as it is. -/
theorem prettyText_keeps (body : String) :
    (∀ v, Json.parse body = .ok v → (∀ n ∈ v.numbers, n.IsWhole) →
      Json.parse (prettyText body) = .ok v ∧
        prettyText (prettyText body) = prettyText body ∧
        ∀ other, Json.parse other = .ok v → prettyText other = prettyText body) ∧
    ∀ e, Json.parse body = .error e → prettyText body = body := by
  constructor
  · intro v hparse hwhole
    have hpretty := prettyText_of_parse hparse
    have hagain : Json.parse v.pretty = .ok v :=
      Json.parse_pretty (Json.bounded_of_parse hparse) hwhole
    rw [hpretty]
    exact ⟨hagain, prettyText_of_parse hagain, fun other => prettyText_of_parse⟩
  · exact fun e => prettyText_of_error

/-- A member that comes twice, a character in two halves, an empty array and an empty object; and a
body that ends too early. -/
theorem prettyText_keeps_escapes :
    let body := "\x7b\"a\": 1, \"b\":\"\\ud83d\\ude00\\u0041\", \"a\":[-7,[ ],\x7b \x7d,-0]\x7d"
    let shown := "\x7b\n  \"a\": [\n    -7,\n    [],\n    \x7b\x7d,\n    -0.0\n  ],\n"
      ++ "  \"b\": \"😀A\"\n\x7d"
    (prettyText body = shown ∧ prettyText shown = shown ∧
      ∃ v, Json.parse body = .ok v ∧ Json.parse shown = .ok v) ∧
    prettyText "\x7b\"a\":" = "\x7b\"a\":" := by
  intro body shown
  have hread : (Json.parse body).toOption.map (fun v => (v.pretty, v.numbers))
      = some (shown, [.integer (-7), .double (.zero true)]) := by decide +kernel
  cases hparse : Json.parse body with
  | error e =>
    rw [hparse] at hread
    cases hread
  | ok v =>
    rw [hparse] at hread
    obtain ⟨hpretty, hnumbers⟩ := Prod.mk.inj (Option.some.inj hread)
    have hwhole : ∀ n ∈ v.numbers, n.IsWhole := by
      rw [show v.numbers = _ from hnumbers]
      decide
    have hshown : prettyText body = shown := (prettyText_of_parse hparse).trans hpretty
    obtain ⟨hsame, hagain, -⟩ := (prettyText_keeps body).1 v hparse hwhole
    rw [hshown] at hsame hagain
    refine ⟨⟨hshown, hagain, v, rfl, hsame⟩, ?_⟩
    cases hbroken : Json.parse "\x7b\"a\":" with
    | ok v =>
      have hnot : (Json.parse "\x7b\"a\":").toOption.isNone = true := by decide +kernel
      rw [hbroken] at hnot
      cases hnot
    | error e => exact (prettyText_keeps _).2 e hbroken

end CallBook.Report
