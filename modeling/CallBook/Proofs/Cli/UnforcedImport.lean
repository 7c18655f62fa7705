import Mathlib.Data.List.TakeWhile
import CallBook.Proofs.Cli.Changes
import CallBook.Proofs.Import.Archive

/-!
# An import without force only appends

Where nobody answers, an import without `force` fails where it would overwrite something. Each save
is preceded by the question whether the name is taken, and a record of a new name goes last; so a
step leaves all records where they are (`keeps_saveCall`), and so does a run of them
(`keeps_saveAll`), wherever it stops and for whatever reason. For a batch of calls of which all can
be written it is said exactly where that is: at the first name that was in the store before the run,
since no call of the batch can be in the way of another.
-/

namespace CallBook

/-! ## Stores that keep their records -/

/-- What could be read of a store can still be read: all records unchanged and in their order, and
new ones only after them. -/
def Store.Keeps {α : Type} [Stored α] (before after : Store α) : Prop :=
  ∀ m, before.records = .ok m → ∃ m', after.records = .ok m' ∧ m.entries <+: m'.entries

namespace Store

variable {α : Type} [Stored α]

theorem Keeps.refl (s : Store α) : s.Keeps s := fun m hm => ⟨m, hm, List.prefix_refl _⟩

/-- What is kept twice is kept. -/
theorem Keeps.trans {s₁ s₂ s₃ : Store α} (h : s₁.Keeps s₂) (h' : s₂.Keeps s₃) : s₁.Keeps s₃ := by
  intro m₁ hm₁
  obtain ⟨m₂, hm₂, h₁₂⟩ := h m₁ hm₁
  obtain ⟨m₃, hm₃, h₂₃⟩ := h' m₂ hm₂
  exact ⟨m₃, hm₃, h₁₂.trans h₂₃⟩

/-- Saving a record whose name is not taken keeps all records. -/
theorem keeps_save [LawfulStored α] {s after : Store α} {record : α} {refused : Option Refusal}
    (hnew : s.contains (Stored.name record) = .ok false)
    (h : s.save record refused = .ok after) : s.Keeps after := by
  intro m hm
  have hname : Stored.name record ∉ Entries.keys m.entries := by
    rw [contains, hm] at hnew
    have hcontains : m.contains (Stored.name record) = false := Except.ok.inj hnew
    rwa [OrderedMap.contains_eq_mem, decide_eq_false_iff_not] at hcontains
  -- only a write that does not start could keep the record from being written, and this one did
  rw [save_of_records hm, write_of_records hm] at h
  cases hr : s.refusal? refused with
  | some e =>
    rw [hr] at h
    cases h
  | none =>
    rw [hr] at h
    cases h
    refine ⟨_, records_ofText s _, ?_⟩
    rw [OrderedMap.entries_insert, Entries.insert_of_not_mem hname]
    exact List.prefix_append _ _

end Store

namespace Cli

/-- Both stores keep their records. -/
structure Data.Keeps (before after : Data) : Prop where
  requests : before.requests.Keeps after.requests
  environments : before.environments.Keeps after.environments

theorem Data.Keeps.refl (d : Data) : d.Keeps d := ⟨.refl d.requests, .refl d.environments⟩

/-! ## Imports -/

/-- An environment that is read from a file has the name that was given. -/
theorem name_of_readEnvironment {c : Context} {name path : String} {e : Environment}
    (h : readEnvironment c name path = .ok e) : e.name = name := by
  rw [readEnvironment] at h
  split at h
  · cases h
  · split at h
    · cases h
    · cases h
      rfl

section

variable {c : Context} (hc : c.Unattended)

include hc

/-- Where nobody answers, a record may be saved only if its name is not taken. -/
theorem eq_false_of_maySave {number : Nat} {taken : Except StoreError Bool} {may : Bool}
    (h : maySave c number false taken = .ok may) : may = true ∧ taken = .ok false := by
  obtain ⟨found, hfound, h⟩ := exists_of_bind_ok h
  obtain ⟨u, hu⟩ := hc number
  cases found with
  | true =>
    rw [if_pos rfl, hu] at h
    cases h
  | false =>
    cases h
    exact ⟨rfl, eq_ok_of_mapError hfound⟩

/-- An unforced call replaces none that is there. -/
theorem keeps_saveCall {number : Nat} {r : Request} {s : Store Request}
    {after : Option (Store Request)} (h : saveCall c number false r s = .ok after) :
    s.Keeps (after.getD s) := by
  obtain ⟨may, hmay, -⟩ := exists_of_bind_ok h
  rcases cases_of_saveCall h with rfl | ⟨saved, rfl, hsave⟩
  · exact .refl s
  · exact Store.keeps_save (eq_false_of_maySave hc hmay).2 hsave

/-- A run of saves keeps all records wherever it stops. -/
theorem keeps_saveAll (number said : Nat) (calls : List Request) (s : Store Request) :
    s.Keeps (saveAll c false number said calls s).store := by
  induction calls generalizing number said s with
  | nil => exact .refl s
  | cons r more ih =>
    rw [saveAll]
    cases hsave : saveCall c number false r s with
    | error e => exact .refl s
    | ok after =>
      have hsaved : s.Keeps (after.getD s) := keeps_saveCall hc hsave
      dsimp only
      split
      · exact hsaved
      · exact hsaved.trans (ih _ _ _)

/-- An unforced import of a command replaces no call. -/
theorem keeps_importCurl (command : String) (name group : Option String) (d : Data)
    {output : String} {after : Data}
    (h : importCurl c command name group false d = .ok (output, after)) : d.Keeps after := by
  obtain ⟨r, -, h⟩ := exists_of_bind_ok h
  obtain ⟨requests, hsave, h⟩ := exists_of_bind_ok h
  have hkeeps := keeps_saveCall hc hsave
  cases requests with
  | none =>
    cases h
    exact .refl d
  | some requests =>
    cases h
    exact ⟨hkeeps, .refl d.environments⟩

/-- An unforced import of calls replaces none that is there. -/
theorem keeps_importCalls {options : ArchiveOptions} (hforce : options.force = false)
    (rs : List Request) (d : Data) : d.Keeps (importCalls c options rs d).data := by
  rw [importCalls, hforce]
  split
  · exact .refl d
  · exact ⟨keeps_saveAll hc 0 0 _ d.requests, .refl d.environments⟩

/-- An unforced import of an archive replaces no call. -/
theorem keeps_importArchive (path : String) {options : ArchiveOptions}
    (hforce : options.force = false) (d : Data) :
    d.Keeps (importArchive c path options d).data := by
  cases hlist : options.list with
  | true =>
    rw [data_importArchive_of_list c path hlist]
    exact .refl d
  | false =>
    rcases importArchive_of_not_list c path hlist d with ⟨e, h⟩ | ⟨rs, h⟩
    · rw [h]
      exact .refl d
    · rw [h]
      exact keeps_importCalls hc hforce rs d

/-- An unforced import of an environment replaces none. -/
theorem keeps_importEnvironment (name path : String) (d : Data) {output : String}
    {after : Data} (h : importEnvironment c name path false d = .ok (output, after)) :
    d.Keeps after := by
  obtain ⟨e, he, h⟩ := exists_of_bind_ok h
  obtain ⟨may, hmay, h⟩ := exists_of_bind_ok h
  obtain ⟨rfl, hnew⟩ := eq_false_of_maySave hc hmay
  obtain ⟨environments, hsave, h⟩ := exists_of_bind_ok h
  cases h
  rw [← name_of_readEnvironment he] at hnew
  exact ⟨.refl d.requests, Store.keeps_save hnew (eq_ok_of_mapError hsave)⟩

end

/-- An import that overwrites nothing without asking. -/
def Command.isUnforcedImport : Command → Bool
  | importCurl _ _ _ force => !force
  | importArchive _ options => !options.force
  | importEnvironment _ _ force => !force
  | _ => false

/-- No unforced import replaces a record. -/
theorem keeps_perform {c : Context} (hc : c.Unattended) (d : Data) {command : Command}
    (h : command.isUnforcedImport = true) : d.Keeps (command.perform c d).data := by
  cases command with
  | importCurl text name group force =>
    obtain rfl : force = false := by simpa [Command.isUnforcedImport] using h
    exact data_ofExcept (.refl d) fun _ _ hok => keeps_importCurl hc text name group d hok
  | importArchive path options =>
    have hforce : options.force = false := by simpa [Command.isUnforcedImport] using h
    exact keeps_importArchive hc path hforce d
  | importEnvironment name path force =>
    obtain rfl : force = false := by simpa [Command.isUnforcedImport] using h
    exact data_ofExcept (.refl d) fun _ _ hok => keeps_importEnvironment hc name path d hok
  | _ => cases h

/-! ## Where the import of a batch stops -/

/-- Calls of new and different names go last. -/
theorem entries_upserted_of_new {m : OrderedMap Request} {calls : List Request}
    (hn : (calls.map Request.name).Nodup) (hnew : ∀ r ∈ calls, r.name ∉ m.keys) :
    (upserted m calls).entries = m.entries ++ calls.map fun r => (r.name, r) := by
  rw [entries_upserted]
  refine Entries.insertAll_of_nodup ?_
  have hkeys : Entries.keys (m.entries ++ calls.map fun r => (r.name, r))
      = m.keys ++ calls.map Request.name := by
    simp [Entries.keys, OrderedMap.keys, Function.comp_def]
  rw [hkeys]
  refine List.nodup_append.mpr ⟨m.nodup, hn, ?_⟩
  rintro name hname _ hmem rfl
  obtain ⟨r, hr, rfl⟩ := List.mem_map.mp hmem
  exact hnew r hr hname

/-- **An import without force never changes a record** where nobody answers. Whatever import is
performed, and whichever writes do not start, a store that can be read can be read afterwards, and
holds all the records that it held, unchanged and in their order. When the calls of an archive, or
of the chosen entry, are found and may be given the name that is asked for, and nothing hinders the
writes and the output, then into a store that can be written the longest run of calls at the start
of the batch none of whose names was in the store goes, in order, after the old records; and this
succeeds exactly if that is the whole batch. -/
theorem import_unforced_appends {c : Context} (hask : c.Unattended) (d : Data) :
    (∀ command : Command, command.isUnforcedImport = true →
      d.requests.Keeps (command.perform c d).data.requests ∧
        d.environments.Keeps (command.perform c d).data.environments) ∧
    ∀ (path text : String) (options : ArchiveOptions) (rs : List Request)
      (m : OrderedMap Request), c.Unhindered → c.read path = .ok text → options.force = false →
      options.list = false → archived text options.entry = .ok rs →
      (options.name = none ∨ rs.length ≤ 1) → d.requests.records = .ok m →
      d.requests.blocked = none →
      let calls := batch c options rs
      let added := calls.takeWhile fun r => decide (r.name ∉ m.keys)
      let after := Command.perform c d (.importArchive path options)
      (∃ m', after.data.requests.records = .ok m' ∧
        m'.entries = m.entries ++ added.map fun r => (r.name, r)) ∧
      (after.failure = none ↔ added = calls) := by
  constructor
  · intro command h
    obtain ⟨hrequests, henvironments⟩ := keeps_perform hask d h
    exact ⟨hrequests, henvironments⟩
  · intro path text options rs m hc hread hforce hlist hrs hname hm hb calls added after
    have hafter : after = importCalls c options rs d :=
      importArchive_of_archived hread hlist hrs d
    obtain ⟨hfailure, hdata, -⟩ := importCalls_of_records hc (Or.inr hask) hname hm hb
    simp only [hforce, Bool.false_or] at hfailure hdata
    -- the calls that went in are a part of the batch, so their names differ
    have hadded : added <+: calls := List.takeWhile_prefix _
    have hn : (added.map Request.name).Nodup :=
      (nodup_batch hname c).sublist (hadded.sublist.map Request.name)
    -- none of them was there before, so all stand behind the old ones
    have hnew : ∀ r ∈ added, r.name ∉ m.keys := by
      intro r hr
      simpa using List.mem_takeWhile_imp hr
    rw [hafter]
    refine ⟨?_, hfailure⟩
    rw [hdata]
    exact ⟨_, records_storeAfter hm added, entries_upserted_of_new hn hnew⟩

/-- The second of three captures has the name of an old call: the import stops before it, with the
first one saved after the old call, although the name of the third would be free. -/
theorem import_unforced_stops_at_taken_name :
    let ping : Request := { name := "Ping", url := "http://h/ping" }
    let users : Request := { name := "Users", url := "http://h/users" }
    let entry (url : String) : Json.Value :=
      .object [("request", .object [("url", .string url)])]
    let entries := [entry ping.url, entry users.url, entry ping.url]
    let document : Json.Value := .object [("log", .object [("entries", .array entries)])]
    let text := document.compact
    let m : OrderedMap Request := .ofList [("Users", { name := "Users" })]
    let c : Context := {
      settings := {}
      colours := false
      read := fun _ => .ok text
      process := []
      select := fun _ => .error (.client "")
      elapsedMs := 0 }
    let d : Data := {
      requests := { base := "data", content := .ofText (Store.recordsText m) }
      environments := { base := "data", content := .missing } }
    let command : Command := .importArchive "a.har" {}
    ((c.Unattended ∧ c.Unhindered) ∧ c.read "a.har" = .ok text ∧
      archived text none = .ok [ping, users, ping] ∧
      d.requests.records = .ok m ∧ d.requests.blocked = none) ∧
    (command.isUnforcedImport = true ∧
      d.requests.Keeps (command.perform c d).data.requests) ∧
    (command.perform c d).failure ≠ none ∧
    (command.perform c d).data.requests.records
      = .ok (.ofList [("Users", { name := "Users" }), ("Ping", ping)]) := by
  intro ping users entry entries document text m c d command
  have hdocument : document.Readable Json.maxDepth := by
    refine ⟨⟨?_, by decide⟩, by decide⟩
    simp [document, entries, entry, Json.Value.WellFormed, Json.Value.WellFormedMembers,
      Json.Value.WellFormedItems]
  have hrs : archived text none = .ok [ping, users, ping] := by
    refine archived_of_harArchive ?_
    rw [Import.harArchive_compact hdocument (Import.entriesOf_eq_ok rfl rfl)]
    decide +kernel
  have hm : d.requests.records = .ok m := Store.records_ofText d.requests m
  have hask : c.Unattended := fun _ => ⟨.noTerminal, rfl⟩
  have hc : c.Unhindered := ⟨fun _ => rfl, rfl⟩
  have hread : c.read "a.har" = .ok text := rfl
  have hb : d.requests.blocked = none := rfl
  have hadded : (batch c {} [ping, users, ping]).takeWhile (fun r => decide (r.name ∉ m.keys))
      = [ping] := by decide +kernel
  have hbatch : batch c {} [ping, users, ping] = [ping, users, { ping with name := "Ping 2" }] := by
    decide +kernel
  -- from here on the text and the stores count only as what is known of them
  clear_value text d
  obtain ⟨hkeeps, happends⟩ := import_unforced_appends hask d
  obtain ⟨⟨m', hrecords, hentries⟩, hfailure⟩ :=
    happends "a.har" text {} _ m hc hread rfl rfl hrs (Or.inl rfl) hm hb
  refine ⟨⟨⟨hask, hc⟩, hread, hrs, hm, hb⟩, ⟨rfl, (hkeeps command rfl).1⟩, ?_, ?_⟩
  · intro hnone
    have hall := hfailure.mp hnone
    rw [hadded, hbatch] at hall
    simp at hall
  · rw [hadded] at hentries
    rw [show m' = .ofList [("Users", { name := "Users" }), ("Ping", ping)] from
      OrderedMap.ext (hentries.trans (by decide))] at hrecords
    exact hrecords

end Cli

end CallBook
