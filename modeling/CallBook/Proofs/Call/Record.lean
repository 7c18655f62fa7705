import CallBook.Call.Record
import CallBook.Proofs.Json.Objects

/-!
# Saved calls and environments read back as they were written

The written form of a record is an object whose members come in the order of the fields, so reading
it sets one field after the other, starting from a record with nothing in it. Nothing is lost on the
way: the method is written as its own word, the maps keep their order, and a call without a group is
written without the member that would name one.
-/

namespace CallBook

open Json (Layout Follows Reads fieldMember)

variable {layout : Layout} {depth level : Nat}

/-- The five members that every call is written with set everything but the group. -/
theorem Request.follows_members (r : Request) {more : List (String × Json.Value)}
    {final : Request × List String}
    (h : Follows (fieldMember Request.jsonFields (depth + 1)) layout level
      ({ r with group := none }, ["body", "headers", "httpMethod", "url", "name"]) more final) :
    Follows (fieldMember Request.jsonFields (depth + 1)) layout level ({}, [])
      ([("name", .string r.name), ("url", .string r.url), ("httpMethod", .string r.method.verb),
        ("headers", .ofTexts r.headers), ("body", .ofTexts r.body)] ++ more) final := by
  refine .field rfl rfl (Json.reads_stringAs .string r.name) ?_
  refine .field rfl rfl (Json.reads_stringAs .string r.url) ?_
  refine .field rfl rfl (Json.reads_stringAs .string r.method.verb) ?_
  refine .field rfl rfl (Json.reads_stringMap depth r.headers) ?_
  refine .field rfl rfl (Json.reads_stringMap depth r.body) ?_
  show Follows _ layout level _ more final
  simpa only [Method.ofText_verb] using h

/-- A call as it is written is read back. -/
theorem Request.reads_toJson (r : Request) :
    Reads (Request.readJson (depth + 2)) (r.toJson.write layout level) r := by
  obtain ⟨name, url, method, headers, body, group⟩ := r
  cases group with
  | none => exact Json.reads_recordOf (Request.follows_members _ (.nil _))
  | some group =>
    have hgroup : Reads (Json.optionalString (depth + 1))
        ((Json.Value.string group).write layout (level + 1)) (some group) :=
      (Json.reads_stringAs .string group).optional (by decide) (by decide)
    exact Json.reads_recordOf
      (Request.follows_members _ (.field rfl rfl hgroup (.nil _)))

/-- An environment as it is written is read back. -/
theorem Environment.reads_toJson (e : Environment) :
    Reads (Environment.readJson (depth + 2)) (e.toJson.write layout level) e := by
  obtain ⟨name, vars⟩ := e
  apply Json.reads_recordOf
  refine .field rfl rfl (Json.reads_stringAs .string name) ?_
  exact .field rfl rfl (Json.reads_stringMap depth vars) (.nil _)

end CallBook
