import CallBook.Import.Har
import CallBook.Proofs.Json.Values

/-!
# An archive is its entries one by one

An entry may be chosen out of an archive and imported as an archive of its own. It then goes a long
way round: the document is read, the entry is wrapped and written as text, and that text is read
again like any other archive. The way round loses nothing, because what was read is read back from
its text (`Json.parse_compact`), and the entry stands as deep in the new document as in the old one,
so that the limit on nesting cannot get in the way (`readable_wrapEntry`).

A chosen entry therefore yields what it yields by itself (`harArchive_wrapEntry`), and a whole
archive yields what its entries yield in order (`harArchive_eq_chosen`).
-/

namespace CallBook.Import

open Json (Value)

section Documents

variable {text : String} {document : Value} {log : List (String × Value)} {list : List Value}

theorem entriesOf_eq_ok (hlog : document.member? "log" = some (.object log))
    (hentries : Entries.lookup "entries" log = some (.array list)) :
    entriesOf document = .ok list := by
  rw [entriesOf, hlog]
  simp only [hentries]

/-- The entries of an archive are those of its document. -/
theorem entries_of_parse (hparse : Json.parse text = .ok document) :
    entries text = entriesOf document := by
  rw [entries, Json.not_blank_of_parse hparse, hparse]
  rfl

/-- An archive makes the calls of its entries. -/
theorem harArchive_of_entries (h : entries text = .ok list) : harArchive text = ofEntries list := by
  rw [harArchive, h]

theorem harArchive_of_parse (hparse : Json.parse text = .ok document)
    (hlist : entriesOf document = .ok list) : harArchive text = ofEntries list :=
  harArchive_of_entries ((entries_of_parse hparse).trans hlist)

/-- An archive that was written yields the calls of its entries. -/
theorem harArchive_compact (h : document.Readable Json.maxDepth)
    (hlist : entriesOf document = .ok list) : harArchive document.compact = ofEntries list :=
  harArchive_of_parse (Json.parse_compact h) hlist

/-- Which entries can be chosen, and what is then written. -/
theorem singleEntry_of_parse (hparse : Json.parse text = .ok document)
    (hlist : entriesOf document = .ok list) :
    singleEntry text 0 = .error (.outOfRange 0 list.length) ∧
      (∀ index (h : index < list.length),
        singleEntry text (index + 1) = .ok (wrapEntry list[index]).compact) ∧
      ∀ index, list.length ≤ index →
        singleEntry text (index + 1) = .error (.outOfRange (index + 1) list.length) := by
  unfold singleEntry
  simp only [hparse, hlist]
  refine ⟨trivial, ?_, ?_⟩
  · intro index h
    simp only [List.getElem?_eq_getElem h]
  · intro index h
    simp only [List.getElem?_eq_none h]

/-- An entry is nested as deeply in an archive of its own as in any other. -/
theorem readable_wrapEntry {entry : Value} {depth : Nat} (h : document.Readable depth)
    (hlog : document.member? "log" = some (.object log))
    (hentries : Entries.lookup "entries" log = some (.array list)) (hentry : entry ∈ list) :
    (wrapEntry entry).Readable depth := by
  cases document with
  | object members =>
    obtain ⟨depth, rfl⟩ := h.exists_depth_of_object
    have hl : (Value.object log).Readable depth := h.of_lookup hlog
    obtain ⟨depth, rfl⟩ := hl.exists_depth_of_object
    have he : (Value.array list).Readable depth := hl.of_lookup hentries
    obtain ⟨depth, rfl⟩ := he.exists_depth_of_array
    have hitem : (Value.array [entry]).Readable (depth + 1) :=
      Value.readable_array (List.forall_mem_singleton.mpr (he.of_mem_array hentry))
    have hinner : (Value.object [("entries", .array [entry])]).Readable (depth + 2) :=
      Value.readable_object (by simp) (List.forall_mem_singleton.mpr hitem)
    exact Value.readable_object (by simp) (List.forall_mem_singleton.mpr hinner)
  | _ => cases hlog

end Documents

/-- An archive of one entry yields the call of that entry. -/
theorem harArchive_wrapEntry {entry : Value} (h : (wrapEntry entry).Readable Json.maxDepth) :
    harArchive (wrapEntry entry).compact = match ofEntry entry with
      | some request => .ok [request]
      | none => .error .noRequests := by
  rw [harArchive_compact h (entriesOf_eq_ok rfl rfl), ofEntries, List.filterMap_cons]
  cases ofEntry entry <;> rfl

/-- The calls that the entry with a number yields when it is imported as an archive of its own. -/
def chosenCalls (text : String) (number : Nat) : List Request :=
  match singleEntry text number with
  | .error _ => []
  | .ok single =>
    match harArchive single with
    | .error _ => []
    | .ok requests => requests

/-- What a list gives is what its items give, one place after another. -/
theorem filterMap_eq_flatMap_range {α β : Type} (f : α → Option β) (l : List α) :
    l.filterMap f = (List.range l.length).flatMap fun i => (l[i]?.bind f).toList := by
  induction l with
  | nil => rfl
  | cons a l ih =>
    rw [List.length_cons, List.range_succ_eq_map, List.flatMap_cons, List.flatMap_map,
      List.filterMap_cons]
    simp only [List.getElem?_cons_zero, List.getElem?_cons_succ, Option.bind_some, ← ih]
    cases f a <;> rfl

/-- **An archive is its entries one by one.** Take a text that is read as a document with an object
`log` that holds an array `entries`, all of whose numbers are integers. Every number from 1 to the
count of entries chooses one, and importing what is chosen gives exactly one call or finds none; no
other number chooses anything. The calls of the whole archive are the calls of the entries chosen
one after the other, and it is refused for having none exactly if they have none. -/
theorem harArchive_eq_chosen {text : String} {document : Value} {log : List (String × Value)}
    {list : List Value} (hparse : Json.parse text = .ok document)
    (hlog : document.member? "log" = some (.object log))
    (hentries : Entries.lookup "entries" log = some (.array list))
    (hint : ∀ n ∈ document.numbers, n.IsWhole) :
    (∀ number, 1 ≤ number → number ≤ list.length →
      ∃ single, singleEntry text number = .ok single ∧
        ((∃ request, harArchive single = .ok [request]) ∨
          harArchive single = .error .noRequests)) ∧
    (harArchive text =
      match (List.range list.length).flatMap fun index => chosenCalls text (index + 1) with
      | [] => .error .noRequests
      | requests => .ok requests) ∧
    ∀ number, number = 0 ∨ list.length < number → ∃ e, singleEntry text number = .error e := by
  have hlist := entriesOf_eq_ok hlog hentries
  obtain ⟨hzero, hchosen, hbeyond⟩ := singleEntry_of_parse hparse hlist
  have hdocument := Json.readable_of_parse hparse hint
  -- an entry that was read can be written and read again by itself
  have hsingle : ∀ index (h : index < list.length),
      harArchive (wrapEntry list[index]).compact = match ofEntry list[index] with
        | some request => .ok [request]
        | none => .error .noRequests :=
    fun index h => harArchive_wrapEntry
      (readable_wrapEntry hdocument hlog hentries (List.getElem_mem h))
  refine ⟨?_, ?_, ?_⟩
  · intro number hlow hhigh
    obtain ⟨index, rfl⟩ := Nat.exists_eq_add_of_le' hlow
    refine ⟨_, hchosen index hhigh, ?_⟩
    rw [hsingle index hhigh]
    cases ofEntry list[index] with
    | some request => exact Or.inl ⟨request, rfl⟩
    | none => exact Or.inr rfl
  · -- entry by entry: an entry is passed over in the whole exactly if it is when chosen
    have hcalls : list.filterMap ofEntry
        = (List.range list.length).flatMap fun index => chosenCalls text (index + 1) := by
      rw [filterMap_eq_flatMap_range]
      refine List.flatMap_congr fun index hindex => ?_
      have hlt := List.mem_range.mp hindex
      rw [chosenCalls, hchosen index hlt]
      simp only [hsingle index hlt, List.getElem?_eq_getElem hlt, Option.bind_some]
      cases ofEntry list[index] <;> rfl
    have hwhole := harArchive_of_parse hparse hlist
    rw [ofEntries, hcalls] at hwhole
    exact hwhole
  · rintro number (rfl | hlarge)
    · exact ⟨_, hzero⟩
    · obtain ⟨index, rfl⟩ := Nat.exists_eq_add_of_le' (Nat.one_le_of_lt hlarge)
      exact ⟨_, hbeyond index (Nat.le_of_lt_succ hlarge)⟩

/-- An archive whose first entry is none at all; the second is chosen and found all the same. -/
theorem harArchive_eq_chosen_beside_malformed :
    let entry : Value := .object [("request",
      .object [("url", .string "http://h/ping"), ("headersSize", .number (.integer (-1)))])]
    let log := [("entries", Value.array [.string "no entry", entry])]
    let document : Value := .object [("log", .object log)]
    let text := document.compact
    let ping : Request := { name := "Ping", url := "http://h/ping" }
    (Json.parse text = .ok document ∧ document.member? "log" = some (.object log) ∧
      Entries.lookup "entries" log = some (.array [.string "no entry", entry]) ∧
      (∀ n ∈ document.numbers, n.IsWhole)) ∧
    (∃ single, singleEntry text 2 = .ok single) ∧ (∃ e, singleEntry text 3 = .error e) ∧
    harArchive text = .ok (chosenCalls text 1 ++ chosenCalls text 2) ∧
    chosenCalls text 1 ++ chosenCalls text 2 = [ping] := by
  intro entry log document text ping
  have hdocument : document.Readable Json.maxDepth := by
    refine ⟨⟨?_, by decide⟩, by decide⟩
    simp [document, log, entry, Value.WellFormed, Value.WellFormedMembers,
      Value.WellFormedItems, Json.fits_iff]
  have hparse : Json.parse text = .ok document := Json.parse_compact hdocument
  -- from here on the text counts only as one that is read as the document
  clear_value text
  obtain ⟨hsingle, hall, hbeyond⟩ := harArchive_eq_chosen hparse rfl rfl hdocument.whole
  obtain ⟨single, hchosen, -⟩ := hsingle 2 (by decide) (by decide)
  have hcalls : [Value.string "no entry", entry].filterMap ofEntry = [ping] := by decide +kernel
  have hwhole : harArchive text = .ok [ping] := by
    rw [harArchive_of_parse hparse (entriesOf_eq_ok rfl rfl), ofEntries, hcalls]
  have hping : chosenCalls text 1 ++ chosenCalls text 2 = [ping] := by
    rw [hwhole] at hall
    split at hall
    · cases hall
    · next hflat => simpa [List.range_succ] using (Except.ok.inj hall).symm
  exact ⟨⟨hparse, rfl, rfl, hdocument.whole⟩, ⟨single, hchosen⟩, hbeyond 3 (by decide),
    by rw [hping, hwhole], hping⟩

end CallBook.Import
