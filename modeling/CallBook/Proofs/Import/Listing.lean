import CallBook.Proofs.Import.Entry

/-!
# The listing numbers what is imported

A listing reads the entries of an archive as they stand in the document; an import of one of them
goes through an archive of its own and reads its request with types. Both come to the same texts
where the import yields a call: a member that is read as a text, or as none, is that text, or no
text, for the listing too (`bind_text?_of_nullable`).

The line of an entry depends on that entry alone, so entries that yield no call do not shift the
numbers of those that do.

Main result: `summaries_shows`.
-/

namespace CallBook.Import

open Json (Value)

/-! ## Lines -/

/-- A line shows a call: a word for its method and its URL, of which at most 80 characters are
shown. -/
def Shows (line : String) (r : Request) : Prop :=
  ∃ word shown, line = word ++ " " ++ shown ∧ Method.ofText word = r.method ∧
    (r.url.length ≤ 80 → shown = r.url) ∧
    (80 < r.url.length → shown = String.ofList (r.url.toList.take 80) ++ "...")

/-- What is read as a text or as none is the same to one who looks for a text only. -/
theorem bind_text?_of_nullable {m : Option Value} {o : Option String} (h : Nullable IsText m o) :
    m.bind Value.text? = o := by
  cases h with
  | absent => rfl
  | null => rfl
  | given ht => exact (text?_eq_some_iff _ _).mpr ht

/-- The line of a typed request. -/
theorem summary_of_typed {members request : List (String × Value)} {c : Captured}
    (hrequest : Entries.lookup "request" members = some (.object request))
    (h : Typed request c) :
    summary (.object members) = c.method.getD "GET" ++ " " ++ shortened (c.url.getD "") := by
  have hmember : Value.member? "request" (.object members) = some (.object request) := hrequest
  have htext : ∀ key, ((some (Value.object request)).bind (Value.member? key)).bind Value.text?
      = (Entries.lookup key request).bind Value.text? := fun _ => rfl
  rw [summary]
  simp only [hmember, htext, bind_text?_of_nullable h.method, bind_text?_of_nullable h.url]

/-- A text of at most 80 characters is shown as it is. -/
theorem shortened_of_short {text : String} (h : text.length ≤ 80) : shortened text = text := by
  rw [← String.length_toList] at h
  exact if_pos h

/-- Of a longer text 80 characters are shown, and a mark. -/
theorem shortened_of_long {text : String} (h : 80 < text.length) :
    shortened text = String.ofList (text.toList.take 80) ++ "..." := by
  rw [← String.length_toList] at h
  exact if_neg (Nat.not_le.mpr h)

/-- A request that makes a call has a URL, and makes the call as described. -/
theorem converted_of_ofCaptured {c : Captured} {r : Request} (h : ofCaptured c = some r) :
    ∃ url, c.url = some url ∧ Converted c url r := by
  have hne : c.url.getD "" ≠ "" := by
    intro hempty
    rw [ofCaptured_eq_none hempty] at h
    cases h
  obtain ⟨url, hurl⟩ : ∃ url, c.url = some url := by
    cases hc : c.url with
    | none =>
      rw [hc] at hne
      exact absurd rfl hne
    | some url => exact ⟨url, rfl⟩
  rw [hurl] at hne
  obtain ⟨r', hr, hconverted⟩ := exists_converted hurl hne
  rw [h] at hr
  cases hr
  exact ⟨url, hurl, hconverted⟩

/-- The line of an entry shows the call that the entry makes. -/
theorem shows_summary {members request : List (String × Value)} {r : Request}
    (hrequest : Entries.lookup "request" members = some (.object request))
    (hr : ofEntry (.object members) = some r) : Shows (summary (.object members)) r := by
  rw [ofEntry_object hrequest] at hr
  obtain ⟨c, hc, hcall⟩ := Option.bind_eq_some_iff.mp hr
  obtain ⟨url, hurl, hconverted⟩ := converted_of_ofCaptured hcall
  refine ⟨c.method.getD "GET", shortened r.url, ?_, ?_, shortened_of_short, shortened_of_long⟩
  · rw [summary_of_typed hrequest (captured?_eq_some_iff_typed.mp hc), hurl, hconverted.url]
    rfl
  · rw [hconverted.method]
    cases c.method with
    | none => exact Method.ofText_verb .get
    | some word => rw [Option.getD_some, Option.map_some, Option.getD_some]

/-! ## Archives -/

/-- Entries stand in the object `log` of a document. -/
theorem exists_log_of_entriesOf {document : Value} {list : List Value}
    (h : entriesOf document = .ok list) :
    ∃ log, document.member? "log" = some (.object log) ∧
      Entries.lookup "entries" log = some (.array list) := by
  unfold entriesOf at h
  split at h
  · next log hlog =>
    split at h
    · next items hitems =>
      cases h
      exact ⟨log, hlog, hitems⟩
    · cases h
  · cases h

/-- **The listing numbers what is imported.** Take a text that is read as a document whose numbers
are integers, with at least one entry. Its listing has a line for each entry. Each number from 1 to
the count of entries chooses an entry; if the entry and its `request` are objects and importing what
was chosen gives a call, then the line of that number shows the call. -/
theorem summaries_shows {text : String} {document : Value} {list : List Value}
    (hparse : Json.parse text = .ok document) (hint : ∀ n ∈ document.numbers, n.IsWhole)
    (hentries : entries text = .ok list) (hne : list ≠ []) :
    ∃ lines, summaries text = .ok lines ∧ lines.length = list.length ∧
      ∀ index (h : index < list.length), ∃ single line,
        singleEntry text (index + 1) = .ok single ∧ lines[index]? = some line ∧
        ∀ members request r, list[index] = .object members →
          Entries.lookup "request" members = some (.object request) →
          harArchive single = .ok [r] → Shows line r := by
  have hlist : entriesOf document = .ok list := (entries_of_parse hparse).symm.trans hentries
  obtain ⟨log, hlog, hitems⟩ := exists_log_of_entriesOf hlist
  have hreadable := Json.readable_of_parse hparse hint
  have hlines : summaries text = .ok (list.map summary) := by
    obtain ⟨entry, more, rfl⟩ := List.exists_cons_of_ne_nil hne
    rw [summaries, hentries]
  refine ⟨list.map summary, hlines, List.length_map _, fun index h => ?_⟩
  refine ⟨(wrapEntry list[index]).compact, summary list[index],
    (singleEntry_of_parse hparse hlist).2.1 index h, by simp [h], ?_⟩
  intro members request r hentry hrequest hcalls
  rw [harArchive_wrapEntry
    (readable_wrapEntry hreadable hlog hitems (List.getElem_mem h))] at hcalls
  rw [hentry] at hcalls ⊢
  split at hcalls
  · next r' hr =>
    cases hcalls
    exact shows_summary hrequest hr
  · cases hcalls

/-- Behind an entry that is none and one without a URL stands one whose URL is cut. -/
theorem summaries_shows_behind_malformed :
    let url := "http://h/aaaaaaaaaaaaaaaaaaaaaaaaaaaaaaaaaaaaaaaaaaaaaaaaaaaaaaaaaaaaaaaaaaaaaaaa"
    let request : List (String × Value) := [("url", .string url), ("method", .string " put")]
    let list : List Value :=
      [.string "no entry", .object [("request", .object [])],
        .object [("request", .object request)]]
    let document : Value := .object [("log", .object [("entries", .array list)])]
    let r : Request := { name := title url, url, method := .put }
    (Json.parse document.compact = .ok document ∧ (∀ n ∈ document.numbers, n.IsWhole) ∧
      entries document.compact = .ok list ∧ list ≠ []) ∧
    ∃ lines line, summaries document.compact = .ok lines ∧ lines.length = 3 ∧
      lines[2]? = some line ∧ Shows line r ∧ 80 < url.length := by
  intro url request list document r
  have hdocument : document.Readable Json.maxDepth := by
    refine ⟨⟨?_, by decide⟩, by decide⟩
    simp [document, list, request, Value.WellFormed, Value.WellFormedMembers,
      Value.WellFormedItems]
  have hparse : Json.parse document.compact = .ok document := Json.parse_compact hdocument
  have hentries : entries document.compact = .ok list := entries_of_parse hparse
  obtain ⟨lines, hlines, hcount, hshows⟩ :=
    summaries_shows hparse hdocument.whole hentries (List.cons_ne_nil _ _)
  obtain ⟨single, line, hsingle, hline, hcall⟩ := hshows 2 (by decide)
  have hchosen : singleEntry document.compact 3 = .ok (wrapEntry list[2]).compact :=
    (singleEntry_of_parse hparse rfl).2.1 2 (by decide)
  have hcalls : harArchive single = .ok [r] := by
    have hr : ofEntry list[2] = some r := by decide +kernel
    rw [Except.ok.inj (hsingle.symm.trans hchosen),
      harArchive_wrapEntry (readable_wrapEntry hdocument rfl rfl (List.getElem_mem _)), hr]
  exact ⟨⟨hparse, hdocument.whole, hentries, List.cons_ne_nil _ _⟩, lines, line, hlines, hcount,
    hline, hcall _ request r rfl rfl hcalls, by decide⟩

end CallBook.Import
