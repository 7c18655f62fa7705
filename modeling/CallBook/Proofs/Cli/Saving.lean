import CallBook.Cli.Session
import CallBook.Proofs.Answers
import CallBook.Proofs.Import.Batch
import CallBook.Proofs.Storage.Refinement

/-!
# Saving the calls of a batch

The calls of an archive are saved one by one, and the store is read again before each of them. What
a run of saves does is said here in terms of the records before it: where nobody answers, it saves
the calls up to the first that may not be overwritten (`saveAll_of_records`). Whether a call may be
saved is asked of a store that the same batch has been growing, but the names of a batch differ
(`nodup_batch`), so the answer is the one that the records before the run would give.
-/

namespace CallBook.Cli

/-! ## Outcomes -/

/-- What is true of the stores before a command, and after it if it does not fail, is true of them
whether it fails or not. -/
theorem data_ofExcept {P : Data → Prop} {d : Data} {x : Except Failure (String × Data)} (hd : P d)
    (h : ∀ output after, x = .ok (output, after) → P after) : P (Outcome.ofExcept d x).data := by
  cases x with
  | error e => exact hd
  | ok said => exact h said.1 said.2 rfl

/-! ## Surroundings -/

/-- Every write starts, and all output can be written. -/
structure Context.Unhindered (c : Context) : Prop where
  writes : ∀ number, c.refused number = none
  output : c.silence = none

/-- No question gets an answer. -/
def Context.Unattended (c : Context) : Prop := ∀ number, ∃ u, c.answer number = .error u

/-! ## Saving one call -/

/-- The answer counts only where the name is taken and nothing is forced. -/
theorem maySave_of_records {α : Type} [Stored α] {s : Store α} {m : OrderedMap α}
    (hm : s.records = .ok m) (c : Context) (number : Nat) (force : Bool) (name : String) :
    maySave c number force (s.contains name) = if force || decide (name ∉ m.keys) then .ok true
      else (c.answer number).mapError .unanswered := by
  cases force with
  | true => rfl
  | false =>
    have hcontains : s.contains name = .ok (decide (name ∈ m.keys)) := by
      rw [Store.contains, hm]
      exact congrArg Except.ok (m.contains_eq_mem name)
    rw [maySave, hcontains]
    by_cases hname : name ∈ m.keys
    · simp [hname, ofStore, Except.mapError, bind, Except.bind]
    · simp [hname, ofStore, Except.mapError, bind, Except.bind]

section

variable {c : Context} {number : Nat} {force : Bool} {r : Request} {s : Store Request}
  {m : OrderedMap Request}

/-- A call is saved if its name is free, or if it is forced. -/
theorem saveCall_of_free (hm : s.records = .ok m) (hb : s.blocked = none)
    (hrefused : c.refused number = none) (hfree : (force || decide (r.name ∉ m.keys)) = true) :
    saveCall c number force r s
      = .ok (some { s with content := .ofText (Store.recordsText (m.insert r.name r)) }) := by
  rw [saveCall, maySave_of_records hm, if_pos hfree, hrefused]
  show (ofStore (s.save r)).map some = _
  rw [Store.save_of_unblocked hm hb]
  rfl

/-- A call whose name is taken is not saved if the question gets no answer. -/
theorem saveCall_of_taken (hm : s.records = .ok m) {u : Unanswered}
    (hask : c.answer number = .error u) (htaken : ¬(force || decide (r.name ∉ m.keys)) = true) :
    saveCall c number force r s = .error (.unanswered u) := by
  rw [saveCall, maySave_of_records hm, if_neg htaken, hask]
  rfl

end

/-! ## Saving several -/

/-- A call that is saved lets the batch go on. -/
theorem saveAll_cons_of_saved {c : Context} {force : Bool} {number : Nat} {r : Request}
    {s after : Store Request} (hsilence : c.silence = none)
    (h : saveCall c number force r s = .ok (some after)) (said : Nat) (more : List Request) :
    saveAll c force number said (r :: more) s
      = let rest := saveAll c force (number + 1) (said + (savedLine c r).length + 1) more after
        { rest with lines := savedLine c r :: rest.lines, saved := 1 + rest.saved } := by
  rw [saveAll, h, hsilence]
  rfl

/-- A call that is not saved ends the batch. -/
theorem saveAll_cons_of_error {c : Context} {force : Bool} {number : Nat} {r : Request}
    {s : Store Request} {e : Failure} (h : saveCall c number force r s = .error e) (said : Nat)
    (more : List Request) :
    saveAll c force number said (r :: more) s = { store := s, failure := some e } := by
  rw [saveAll, h]

/-- Records after calls were saved one after the other, each under its own name. -/
def upserted (m : OrderedMap Request) (calls : List Request) : OrderedMap Request :=
  calls.foldl (fun m r => m.insert r.name r) m

/-- Calls are inserted under their names, one after another. -/
theorem entries_upserted (m : OrderedMap Request) (calls : List Request) :
    (upserted m calls).entries
      = Entries.insertAll m.entries (calls.map fun r => (r.name, r)) :=
  OrderedMap.entries_foldl_insert Request.name id calls m

/-- The store after calls were saved one after the other; without calls it is not written. -/
def storeAfter (s : Store Request) (m : OrderedMap Request) : List Request → Store Request
  | [] => s
  | r :: more => { s with content := .ofText (Store.recordsText (upserted m (r :: more))) }

/-- After a batch a store has the calls of the batch besides its own. -/
theorem records_storeAfter {s : Store Request} {m : OrderedMap Request} (hm : s.records = .ok m)
    (calls : List Request) : (storeAfter s m calls).records = .ok (upserted m calls) := by
  cases calls with
  | nil => exact hm
  | cons r more => exact Store.records_ofText s _

/-- Saving a call first is saving it before the others. -/
theorem storeAfter_cons (s : Store Request) (m : OrderedMap Request) (r : Request)
    (more : List Request) :
    storeAfter { s with content := .ofText (Store.recordsText (m.insert r.name r)) }
      (m.insert r.name r) more = storeAfter s m (r :: more) := by
  cases more <;> rfl

/-- **Saving goes on up to the first call that may not be overwritten.** Into a store that can be
read and written, calls with different names are saved in order as long as saving is forced or their
names are not taken, if nobody answers otherwise: there are the lines of those saved, the store
after them, and a failure exactly if some are left over. -/
theorem saveAll_of_records {c : Context} (hc : c.Unhindered) {force : Bool}
    (hask : force = true ∨ c.Unattended) {taken : List String} {calls : List Request}
    (hn : (calls.map Request.name).Nodup) {s : Store Request} {m : OrderedMap Request}
    (hm : s.records = .ok m) (hb : s.blocked = none)
    (ht : ∀ r ∈ calls, r.name ∈ m.keys ↔ r.name ∈ taken) (number said : Nat) :
    let saving := saveAll c force number said calls s
    let saved := calls.takeWhile fun r => force || decide (r.name ∉ taken)
    saving.lines = saved.map (savedLine c) ∧ saving.saved = saved.length ∧
      saving.store = storeAfter s m saved ∧ (saving.failure = none ↔ saved = calls) := by
  induction calls generalizing s m number said with
  | nil => exact ⟨rfl, rfl, rfl, iff_of_true rfl rfl⟩
  | cons r more ih =>
    rw [List.map_cons, List.nodup_cons] at hn
    have hr : (force || decide (r.name ∉ m.keys)) = (force || decide (r.name ∉ taken)) := by
      simp only [ht r List.mem_cons_self]
    intro saving saved
    by_cases hpass : (force || decide (r.name ∉ taken)) = true
    · -- the names after this one are different from it, so they are taken now if they were before
      have hmore : ∀ r' ∈ more, r'.name ∈ (m.insert r.name r).keys ↔ r'.name ∈ taken := by
        intro r' hr'
        have hne : r'.name ≠ r.name := fun e => hn.1 (e ▸ List.mem_map_of_mem hr')
        rw [← ht r' (List.mem_cons_of_mem r hr')]
        exact Entries.mem_keys_insert.trans (or_iff_right hne)
      obtain ⟨hlines, hcount, hstore, hfailure⟩ :=
        ih hn.2 (Store.records_ofText s (m.insert r.name r)) hb hmore (number + 1)
          (said + (savedLine c r).length + 1)
      have hsaving := saveAll_cons_of_saved hc.output
        (saveCall_of_free hm hb (hc.writes number) (hr.trans hpass)) said more
      have hsaved : saved = r :: more.takeWhile fun r => force || decide (r.name ∉ taken) :=
        List.takeWhile_cons_of_pos hpass
      rw [show saving = _ from hsaving, hsaved]
      refine ⟨?_, ?_, ?_, ?_⟩
      · exact congrArg (savedLine c r :: ·) hlines
      · exact (congrArg (1 + ·) hcount).trans (Nat.add_comm ..)
      · exact hstore.trans (storeAfter_cons ..)
      · rw [List.cons.injEq, and_iff_right rfl]
        exact hfailure
    · -- a name that is taken stops the batch, as nobody answers
      obtain ⟨u, hu⟩ := (hask.resolve_left fun hforce => hpass (by rw [hforce]; rfl)) number
      have hsaving := saveAll_cons_of_error (saveCall_of_taken hm hu (by rwa [hr])) said more
      have hsaved : saved = [] := List.takeWhile_cons_of_neg hpass
      rw [show saving = _ from hsaving, hsaved]
      exact ⟨rfl, rfl, rfl, iff_of_false (by simp) (by simp)⟩

/-! ## Batches -/

/-- If no name is asked for, the calls of a batch have the distinct names of the archive. -/
theorem map_name_batch {options : ArchiveOptions} (h : options.name = none) (c : Context)
    (rs : List Request) :
    (batch c options rs).map Request.name = (Import.distinctNames rs).map Request.name := by
  rw [batch, List.map_map]
  refine List.map_congr_left fun r _ => ?_
  simp [arranged, h]

/-- The calls of a batch differ in their names, unless several are given one name. -/
theorem nodup_batch {options : ArchiveOptions} {rs : List Request}
    (h : options.name = none ∨ rs.length ≤ 1) (c : Context) :
    ((batch c options rs).map Request.name).Nodup := by
  rcases h with hnone | hone
  · rw [map_name_batch hnone]
    exact Import.nodup_distinctNames rs
  · -- one call at most, whatever its name
    match rs, hone with
    | [], _ => exact List.nodup_nil
    | [r], _ => exact List.nodup_singleton _

/-- No call of an archive is left out of its batch. -/
theorem length_batch (c : Context) (options : ArchiveOptions) (rs : List Request) :
    (batch c options rs).length = rs.length := by
  rw [batch, List.length_map]
  exact (Import.forall₂_distinctFrom Import.counts_empty rs).length_eq.symm

/-! ## Importing calls -/

/-- The line that an import of some calls ends with when all of them are saved. -/
def totalLine (calls : List Request) : String :=
  "Imported " ++ Text.decimal calls.length ++ " of " ++ Text.decimal calls.length ++ " request(s)"

/-- What comes of an import whose calls may be given the name that is asked for. -/
theorem importCalls_of_records {c : Context} (hc : c.Unhindered) {options : ArchiveOptions}
    (hask : options.force = true ∨ c.Unattended) {rs : List Request}
    (hname : options.name = none ∨ rs.length ≤ 1) {d : Data} {m : OrderedMap Request}
    (hm : d.requests.records = .ok m) (hb : d.requests.blocked = none) :
    let calls := batch c options rs
    let saved := calls.takeWhile fun r => options.force || decide (r.name ∉ m.keys)
    ((importCalls c options rs d).failure = none ↔ saved = calls) ∧
      (importCalls c options rs d).data = { d with requests := storeAfter d.requests m saved } ∧
      (importCalls c options rs d).output = printed (saved.map (savedLine c) ++
        if saved = calls then [totalLine calls] else []) := by
  intro calls saved
  -- the check that several calls are not given one name
  have hpass : ¬(options.name.isSome && decide (1 < rs.length)) = true := by
    rcases hname with h | h
    · simp [h]
    · simp [Nat.not_lt.mpr h]
  obtain ⟨hlines, hcount, hstore, hfailure⟩ := saveAll_of_records hc hask (nodup_batch hname c) hm
    hb (fun _ _ => Iff.rfl) 0 0
  rw [importCalls, if_neg hpass]
  refine ⟨hfailure, congrArg (fun store => { d with requests := store }) hstore, ?_⟩
  dsimp only
  rw [hlines]
  by_cases hall : saved = calls
  · have hlength := hcount.trans (congrArg List.length hall)
    rw [hfailure.mpr hall, if_pos hall, hlength, totalLine]
    rfl
  · obtain ⟨e, he⟩ := Option.ne_none_iff_exists'.mp (mt hfailure.mp hall)
    rw [he, if_neg hall]
    rfl

/-- Without an entry that is asked for, an archive gives all its calls. -/
theorem archived_of_harArchive {text : String} {rs : List Request}
    (h : Import.harArchive text = .ok rs) : archived text none = .ok rs := by
  rw [archived, h]
  rfl

/-- An archive whose calls are found, and are not only shown, is imported. -/
theorem importArchive_of_archived {c : Context} {path text : String} {options : ArchiveOptions}
    {rs : List Request} (hread : c.read path = .ok text) (hlist : options.list = false)
    (hrs : archived text options.entry = .ok rs) (d : Data) :
    importArchive c path options d = importCalls c options rs d := by
  rw [importArchive, hread]
  simp only [hlist, hrs, Bool.false_eq_true, if_false]

end CallBook.Cli
