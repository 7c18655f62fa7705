import Mathlib.Data.List.TakeWhile
import CallBook.Proofs.Cli.Saving
import CallBook.Proofs.Import.Archive

/-!
# A forced import of an archive loses nothing

With `force` every call of a batch is saved, the existing ones overwritten. That no call of the
batch overwrites another one is due to their names, which differ; so the store holds the calls laid
over what it held before, each under its name (`get?_upserted`), and the records of all other names
as they were (`filter_upserted`).
-/

namespace CallBook.Cli

/-- Calls with different names are all there. -/
theorem get?_upserted {calls : List Request} (hn : (calls.map Request.name).Nodup)
    (m : OrderedMap Request) {r : Request} (hr : r ∈ calls) :
    (upserted m calls).get? r.name = some r := by
  have hkeys : (Entries.keys (calls.map fun r => (r.name, r))).Nodup := by
    rw [Entries.keys, List.map_map]
    exact hn
  have hmem : (r.name, r) ∈ calls.map fun r => (r.name, r) := List.mem_map_of_mem hr
  rw [OrderedMap.get?, entries_upserted, Entries.lookup_insertAll hkeys,
    Entries.lookup_of_mem hkeys hmem]
  rfl

/-- Records of other names are not touched. -/
theorem filter_upserted (m : OrderedMap Request) (calls : List Request) :
    (upserted m calls).entries.filter (fun p => decide (p.1 ∉ calls.map Request.name))
      = m.entries.filter fun p => decide (p.1 ∉ calls.map Request.name) := by
  rw [entries_upserted]
  refine Entries.filter_insertAll (fun key => decide (key ∉ calls.map Request.name)) ?_ m.entries
  intro p hp
  obtain ⟨r, hr, rfl⟩ := List.mem_map.mp hp
  simpa using ⟨r, hr, rfl⟩

/-- What comes of a forced import of calls. -/
theorem importCalls_of_forced {c : Context} (hc : c.Unhindered) {options : ArchiveOptions}
    {rs : List Request} (hforce : options.force = true)
    (hname : options.name = none ∨ rs.length ≤ 1) {d : Data} {m : OrderedMap Request}
    (hm : d.requests.records = .ok m) (hb : d.requests.blocked = none) :
    let calls := batch c options rs
    (importCalls c options rs d).failure = none ∧
      (importCalls c options rs d).data = { d with requests := storeAfter d.requests m calls } ∧
      (importCalls c options rs d).output
        = printed (calls.map (savedLine c) ++ [totalLine calls]) := by
  -- nothing stops a forced run, so the calls saved are the whole batch
  have hall : (batch c options rs).takeWhile (fun r => options.force || decide (r.name ∉ m.keys))
      = batch c options rs := by
    rw [List.takeWhile_eq_self_iff, hforce]
    exact fun _ _ => rfl
  obtain ⟨hfailure, hdata, houtput⟩ := importCalls_of_records hc (.inl hforce) hname hm hb
  rw [hall] at hfailure hdata houtput
  rw [if_pos rfl] at houtput
  exact ⟨hfailure.mpr rfl, hdata, houtput⟩

/-- What becomes of each call of an archive, if none is given a name. -/
theorem forall₂_batch {options : ArchiveOptions} (h : options.name = none) (c : Context)
    (rs : List Request) :
    List.Forall₂ (fun r call => call = { r with
      name := call.name
      group := options.group
      headers := c.settings.rules.apply
        (if options.keepBrowserHeaders then r.headers else stripBrowserHeaders r.headers) })
      rs (batch c options rs) := by
  rw [batch, List.forall₂_map_right_iff]
  refine (Import.forall₂_distinctFrom Import.counts_empty rs).imp ?_
  intro r r' hr
  rw [hr]
  simp [arranged, h]

/-- **A forced import loses nothing.** Importing an archive whose calls are found, with `force` and
neither an entry nor a name, into a store that can be read, where every write starts and all output
can be written: it succeeds and says that all of them were saved, whatever would be answered to
questions. There is one call saved for each call of the archive, in order; it has the name that was
made different from the others, the group that is asked for, and the headers that the settings keep
of those that are to be kept. The store holds what it held before with these calls put in one after
the other; each of them is found under its name, and the records of all other names are there
unchanged and in their order. -/
theorem importArchive_forced {c : Context} (hc : c.Unhindered) {path text : String}
    {rs : List Request} {d : Data} {m : OrderedMap Request} (hread : c.read path = .ok text)
    (hrs : Import.harArchive text = .ok rs) (hm : d.requests.records = .ok m)
    (hb : d.requests.blocked = none) (group : Option String) (keep : Bool) :
    ∃ calls : List Request,
      (List.Forall₂ (fun r call => call = { r with
          name := call.name
          group
          headers := c.settings.rules.apply
            (if keep then r.headers else stripBrowserHeaders r.headers) }) rs calls ∧
        calls.map Request.name = (Import.distinctNames rs).map Request.name ∧
        (calls.map Request.name).Nodup) ∧
      let after := importArchive c path { group, keepBrowserHeaders := keep, force := true } d
      let n := Text.decimal rs.length
      (after.failure = none ∧ after.output = printed
        (calls.map (savedLine c) ++ ["Imported " ++ n ++ " of " ++ n ++ " request(s)"])) ∧
      after.data.environments = d.environments ∧
      after.data.requests.records = .ok (calls.foldl (fun m r => m.insert r.name r) m) ∧
      (∀ call ∈ calls, after.data.requests.load call.name = .ok (some call)) ∧
      (calls.foldl (fun m r => m.insert r.name r) m).entries.filter
          (fun p => decide (p.1 ∉ calls.map Request.name))
        = m.entries.filter fun p => decide (p.1 ∉ calls.map Request.name) := by
  let options : ArchiveOptions := { group, keepBrowserHeaders := keep, force := true }
  have hn : ((batch c options rs).map Request.name).Nodup := nodup_batch (Or.inl rfl) c
  have hlist : options.list = false := rfl
  have hforce : options.force = true := rfl
  have hname : options.name = none ∨ rs.length ≤ 1 := Or.inl rfl
  have himport := importArchive_of_archived hread hlist (archived_of_harArchive hrs) d
  obtain ⟨hfailure, hdata, houtput⟩ := importCalls_of_forced hc hforce hname hm hb
  have hrecords := records_storeAfter hm (batch c options rs)
  -- what is known of the batch is known of the import
  rw [← himport] at hfailure hdata houtput
  rw [totalLine, length_batch] at houtput
  refine ⟨batch c options rs, ⟨@forall₂_batch options rfl c rs, map_name_batch rfl c rs, hn⟩, ?_⟩
  refine ⟨⟨hfailure, houtput⟩, ?_, ?_, ?_, filter_upserted m _⟩
  · show (importArchive c path options d).data.environments = _
    rw [hdata]
  · show (importArchive c path options d).data.requests.records = _
    rw [hdata]
    exact hrecords
  · intro call hcall
    show (importArchive c path options d).data.requests.load call.name = _
    rw [hdata, Store.load, hrecords]
    exact congrArg Except.ok (get?_upserted hn m hcall)

/-- Two captures of one address get two names, of which the second was taken: its old call is
overwritten in its place, the other old call stays where it is, and the first capture goes last. A
header that a browser adds is not kept. -/
theorem importArchive_forced_over_taken_suffix :
    let header : Json.Value := .object [("name", .string "Host"), ("value", .string "h")]
    let entries : List Json.Value := [
      .object [("request",
        .object [("url", .string "http://h/ping"), ("headers", .array [header])])],
      .object [("request", .object [("url", .string "http://h/ping")])]]
    let document : Json.Value := .object [("log", .object [("entries", .array entries)])]
    let text := document.compact
    let ping : Request := { name := "Ping", url := "http://h/ping" }
    let captured : Request := { ping with headers := .ofList [("Host", "h")] }
    let first : Request := { ping with group := some "g" }
    let second : Request := { ping with name := "Ping 2", group := some "g" }
    let old : Request := { name := "Old" }
    let m : OrderedMap Request := .ofList [("Ping 2", { name := "Ping 2" }), ("Old", old)]
    let c : Context := {
      settings := {}
      colours := false
      read := fun _ => .ok text
      process := []
      select := fun _ => .error (.client "")
      elapsedMs := 0 }
    let d : Data := {
      requests := { base := "data", content := .ofText (Store.recordsText m) }
      environments := { base := "data", content := .missing } }
    (c.Unhindered ∧ c.read "a.har" = .ok text ∧ Import.harArchive text = .ok [captured, ping] ∧
      d.requests.records = .ok m ∧ d.requests.blocked = none) ∧
    let after := importArchive c "a.har" { group := some "g", force := true } d
    after.failure = none ∧
    after.data.requests.records
      = .ok (.ofList [("Ping 2", second), ("Old", old), ("Ping", first)]) := by
  intro header entries document text ping captured first second old m c d
  have hdocument : document.Readable Json.maxDepth := by
    refine ⟨⟨?_, by decide⟩, by decide⟩
    simp [document, entries, header, Json.Value.WellFormed, Json.Value.WellFormedMembers,
      Json.Value.WellFormedItems]
  have hrs : Import.harArchive text = .ok [captured, ping] := by
    rw [Import.harArchive_compact hdocument (Import.entriesOf_eq_ok rfl rfl)]
    decide +kernel
  have hm : d.requests.records = .ok m := Store.records_ofText d.requests m
  have hc : c.Unhindered := ⟨fun _ => rfl, rfl⟩
  have hread : c.read "a.har" = .ok text := rfl
  have hb : d.requests.blocked = none := rfl
  -- from here on the text and the stores count only as what is known of them
  clear_value text d
  obtain ⟨calls, ⟨hcalls, hnames, -⟩, ⟨hok, -⟩, -, hrecords, -⟩ :=
    importArchive_forced hc hread hrs hm hb (some "g") false
  have hboth : calls = [first, second] := by
    have hdistinct : (Import.distinctNames [captured, ping]).map Request.name
        = ["Ping", "Ping 2"] := by decide +kernel
    rw [hdistinct] at hnames
    obtain ⟨call, rest, hfirst, hrest, rfl⟩ := List.forall₂_cons_left_iff.mp hcalls
    obtain ⟨call', rest, hsecond, hnil, rfl⟩ := List.forall₂_cons_left_iff.mp hrest
    obtain rfl := List.forall₂_nil_left_iff.mp hnil
    simp only [List.map_cons, List.map_nil, List.cons.injEq, and_true] at hnames
    rw [hfirst, hsecond, hnames.1, hnames.2]
    rfl
  subst hboth
  refine ⟨⟨hc, hread, hrs, hm, hb⟩, hok, hrecords.trans ?_⟩
  exact congrArg Except.ok (OrderedMap.ext (by decide))

end CallBook.Cli
