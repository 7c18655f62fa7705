import CallBook.Execution.Outbound
import CallBook.Proofs.Import.Payload
import CallBook.Proofs.OrderedMap

/-!
# What goes out reads back as the call

The engine writes the fields of a call as a JSON object, and the importers read fields from JSON
objects. The two are inverse: an outbound body decodes to the fields it was made from, whatever
texts they hold. Such a call goes out with a content type, its own one if it has one in any
spelling and otherwise one behind all its headers.

Main result: `ResolvedRequest.outbound_decodes`.
-/

namespace CallBook

/-- A content type is a header of that name, however its letters are written. -/
theorem hasContentType_iff {headers : OrderedMap String} :
    hasContentType headers = true ↔
      ∃ name ∈ headers.keys, Text.lowerAscii name = "content-type" := by
  have hlower : Text.lowerAscii "content-type" = "content-type" := by decide
  simp only [hasContentType, List.any_eq_true, Text.sameIgnoringCase, hlower, beq_iff_eq]
  refine exists_congr fun name => and_congr_right fun _ => ?_
  exact eq_comm

/-- The content type that a call gets stands behind its own headers. -/
theorem entries_withContentType {headers : OrderedMap String}
    (h : ¬ ∃ name ∈ headers.keys, Text.lowerAscii name = "content-type") :
    (withContentType headers).entries
      = headers.entries ++ [("Content-Type", "application/json")] := by
  have hnew : "Content-Type" ∉ headers.keys := by
    intro hm
    exact h ⟨"Content-Type", hm, by decide⟩
  rw [← hasContentType_iff] at h
  rw [withContentType, if_neg h, OrderedMap.entries_insert, Entries.insert_of_not_mem hnew]

theorem withContentType_of_mem {headers : OrderedMap String}
    (h : ∃ name ∈ headers.keys, Text.lowerAscii name = "content-type") :
    withContentType headers = headers := by
  rw [withContentType, if_pos (hasContentType_iff.mpr h)]

/-- A call goes out with at most one header that is not its own. -/
theorem ResolvedRequest.size_outbound_le (r : ResolvedRequest) (url : Url) :
    (r.outbound url).headers.size ≤ r.headers.size + 1 := by
  unfold outbound
  dsimp only
  split
  next =>
    unfold withContentType
    split
    next => exact Nat.le_succ _
    next => exact Entries.length_insert_le ..
  next => exact Nat.le_succ _

theorem Method.carriesBody_iff {m : Method} :
    m.carriesBody = true ↔ m = .post ∨ m = .put ∨ m = .patch := by
  cases m <;> decide

/-- **The outbound body decodes to the fields.** A call by `POST`, `PUT` or `PATCH` goes out with a
body from which exactly its fields are read, the same keys and values in the same order, whatever
their texts; its headers are unchanged if one of them is a content type in any case of letters, and
otherwise have a content type behind them. A call by any other method goes out without a body and
with its headers unchanged. -/
theorem ResolvedRequest.outbound_decodes (r : ResolvedRequest) (url : Url) :
    ((r.method = .post ∨ r.method = .put ∨ r.method = .patch) →
      (∃ s, (r.outbound url).body = some s ∧ Import.objectFields? s.toList = some r.body) ∧
      ((∃ name ∈ r.headers.keys, Text.lowerAscii name = "content-type") →
        (r.outbound url).headers = r.headers) ∧
      ((¬ ∃ name ∈ r.headers.keys, Text.lowerAscii name = "content-type") →
        (r.outbound url).headers.entries
          = r.headers.entries ++ [("Content-Type", "application/json")])) ∧
    (¬ (r.method = .post ∨ r.method = .put ∨ r.method = .patch) →
      (r.outbound url).body = none ∧ (r.outbound url).headers = r.headers) := by
  rw [← Method.carriesBody_iff]
  constructor
  · intro hcarries
    have hbody : (r.outbound url).body = some (Json.Value.ofTexts r.body).compact :=
      if_pos hcarries
    have hheaders : (r.outbound url).headers = withContentType r.headers := if_pos hcarries
    rw [hbody, hheaders]
    exact ⟨⟨_, rfl, Import.objectFields?_compact r.body⟩, withContentType_of_mem,
      entries_withContentType⟩
  · intro hnone
    exact ⟨if_neg hnone, if_neg hnone⟩

/-- Fields with quotes, a backslash, controls and an empty key come back; a content type in capital
letters is one, and one that is missing is added at the end. -/
theorem ResolvedRequest.outbound_decodes_odd_fields :
    let fields := OrderedMap.ofList [("", "\"\\\x01\n"), ("é\t", "\x7b\x7d"), ("k", "")]
    let own : ResolvedRequest := ⟨.patch, "", .ofList [("CONTENT-TYPE", "text/plain")], fields⟩
    let bare : ResolvedRequest := ⟨.put, "", .ofList [("Content-Typ", "x")], fields⟩
    let url : Url := { scheme := "http", path := .rooted [] }
    (∃ s, (own.outbound url).body = some s ∧ Import.objectFields? s.toList = some fields) ∧
    (own.outbound url).headers = own.headers ∧
    (bare.outbound url).headers.entries
      = [("Content-Typ", "x"), ("Content-Type", "application/json")] ∧
    (ResolvedRequest.outbound { own with method := .delete } url).body = none := by
  intro fields own bare url
  obtain ⟨hown, hkept, -⟩ := (own.outbound_decodes url).1 (by decide)
  obtain ⟨-, -, hadded⟩ := (bare.outbound_decodes url).1 (by decide)
  have hdelete :=
    (ResolvedRequest.outbound_decodes { own with method := .delete } url).2 (by decide)
  exact ⟨hown, hkept ⟨"CONTENT-TYPE", by decide, by decide⟩, hadded (by decide), hdelete.1⟩

end CallBook
