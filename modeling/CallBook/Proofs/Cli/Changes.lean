import CallBook.Proofs.Cli.Saving

/-!
# What a command changes

Whatever a command does, it comes to its stores by saving and deleting only, and each of the two
reads the whole file before it writes. So a store that cannot be read, or that is in a directory
that cannot be made, stays as it is; any other holds afterwards, if it was written at all, the text
of records that were in it or that go under their own names (`becomes_perform`).

A command that fails has changed nothing, but for the import of an archive that is interrupted after
it has saved calls (`failed_perform`). That takes a question without an answer, a later write that
does not start, or output that cannot be written: a store that took one call would take the next one
too (`interrupts_of_unblocked`).
-/

namespace CallBook

/-! ## Stores that are rewritten -/

namespace Store

variable {α : Type} [Stored α]

/-- The file of a store was written anew, from records that could be read of it: each that is in it
now was in it before, or goes under its own name. -/
structure Rewritten (s after : Store α) : Prop where
  unblocked : s.blocked = none
  content : ∃ m new : OrderedMap α, s.records = .ok m ∧
    after = { s with content := .ofText (recordsText new) } ∧
    ∀ p ∈ new.entries, p ∈ m.entries ∨ p.1 = Stored.name p.2

/-- What may become of a store: it stays, or its file is written anew. -/
def Becomes (s after : Store α) : Prop := after = s ∨ s.Rewritten after

theorem Becomes.refl (s : Store α) : s.Becomes s := Or.inl rfl

/-- Two changes in a row are one: the form that the records had is kept by both. -/
theorem Rewritten.trans [LawfulStored α] {s₁ s₂ s₃ : Store α} (h : s₁.Rewritten s₂)
    (h' : s₂.Rewritten s₃) : s₁.Rewritten s₃ := by
  obtain ⟨hb, m₁, n₁, hm₁, rfl, hentries₁⟩ := h
  obtain ⟨-, m₂, n₂, hm₂, rfl, hentries₂⟩ := h'
  -- the second time, the records are read that were written the first time
  obtain rfl : n₁ = m₂ := Except.ok.inj ((records_ofText s₁ n₁).symm.trans hm₂)
  refine ⟨hb, m₁, n₂, hm₁, rfl, ?_⟩
  intro p hp
  rcases hentries₂ p hp with hp | hname
  · exact hentries₁ p hp
  · exact Or.inr hname

/-- What a store becomes may become something further. -/
theorem Becomes.trans [LawfulStored α] {s₁ s₂ s₃ : Store α} (h : s₁.Becomes s₂)
    (h' : s₂.Becomes s₃) : s₁.Becomes s₃ := by
  rcases h with rfl | h
  · exact h'
  · rcases h' with rfl | h'
    · exact Or.inr h
    · exact Or.inr (h.trans h')

/-- A store stays in its directory. -/
theorem Becomes.base {s after : Store α} (h : s.Becomes after) : after.base = s.base := by
  rcases h with rfl | ⟨-, m, new, -, rfl, -⟩
  · rfl
  · rfl

/-- A store is rewritten if each record that is written is an old one or filed under its name. -/
theorem rewritten_of_write {s after : Store α} {m new : OrderedMap α} {refused : Option Refusal}
    (hm : s.records = .ok m) (h : s.write new refused = .ok after)
    (hentries : ∀ p ∈ new.entries, p ∈ m.entries ∨ p.1 = Stored.name p.2) :
    s.Rewritten after := by
  rw [write_of_records hm] at h
  cases hr : s.refusal? refused with
  | some e =>
    rw [hr] at h
    cases h
  | none =>
    rw [hr] at h
    exact ⟨(refusal?_eq_none_iff.mp hr).1, m, new, hm, (Except.ok.inj h).symm, hentries⟩

/-- Saving a record rewrites the store. -/
theorem rewritten_of_save {s after : Store α} {record : α} {refused : Option Refusal}
    (h : s.save record refused = .ok after) : s.Rewritten after := by
  obtain ⟨m, hm, h⟩ := exists_of_bind_ok h
  refine rewritten_of_write hm h ?_
  intro p hp
  rcases Entries.mem_insert hp with rfl | hp
  · exact Or.inr rfl
  · exact Or.inl hp

/-- Deleting a record rewrites the store, or leaves it if there is none of that name. -/
theorem becomes_of_delete {s after : Store α} {name : String} {refused : Option Refusal}
    {wasThere : Bool} (h : s.delete name refused = .ok (wasThere, after)) : s.Becomes after := by
  obtain ⟨m, hm, h⟩ := exists_of_bind_ok h
  split at h
  · obtain ⟨written, hwrite, h⟩ := exists_of_bind_ok h
    cases h
    refine Or.inr (rewritten_of_write hm hwrite ?_)
    intro p hp
    rw [OrderedMap.entries_erase, Entries.erase_eq_filter m.nodup] at hp
    exact Or.inl (List.mem_filter.mp hp).1
  · cases h
    exact .refl s

end Store

namespace Cli

/-! ## What becomes of the stores -/

/-- The store of a kind of records. -/
def Data.store (d : Data) : (k : Kind) → Store k.Record
  | .call => d.requests
  | .environment => d.environments

/-- What may become of both stores. -/
structure Data.Becomes (d after : Data) : Prop where
  requests : d.requests.Becomes after.requests
  environments : d.environments.Becomes after.environments

theorem Data.Becomes.refl (d : Data) : d.Becomes d := ⟨.refl d.requests, .refl d.environments⟩

/-- What holds of both stores holds of the one of a kind. -/
theorem Data.Becomes.store {d after : Data} (h : d.Becomes after) (k : Kind) :
    (d.store k).Becomes (after.store k) := by
  cases k with
  | call => exact h.requests
  | environment => exact h.environments

/-- Saying something changes no store. -/
theorem data_said (d : Data) (x : Except Failure String) : (Outcome.said d x).data = d := by
  cases x <;> rfl

/-- A call that was gone on from was saved, or it was to be skipped. -/
theorem cases_of_saveCall {c : Context} {number : Nat} {force : Bool} {r : Request}
    {s : Store Request} {after : Option (Store Request)}
    (h : saveCall c number force r s = .ok after) :
    after = none ∨ ∃ saved, after = some saved ∧ s.save r (c.refused number) = .ok saved := by
  obtain ⟨may, -, h⟩ := exists_of_bind_ok h
  cases may with
  | true =>
    obtain ⟨saved, hsaved, rfl⟩ := exists_of_map_ok h
    exact Or.inr ⟨saved, rfl, eq_ok_of_mapError hsaved⟩
  | false =>
    cases h
    exact Or.inl rfl

/-- A call that is kept, or skipped after a question, makes a permitted change. -/
theorem becomes_saveCall {c : Context} {number : Nat} {force : Bool} {r : Request}
    {s : Store Request} {after : Option (Store Request)}
    (h : saveCall c number force r s = .ok after) : s.Becomes (after.getD s) := by
  rcases cases_of_saveCall h with rfl | ⟨saved, rfl, hsave⟩
  · exact .refl s
  · exact Or.inr (Store.rewritten_of_save hsave)

/-- Any number of calls, however many of them are saved before the batch ends, make a permitted
change. -/
theorem becomes_saveAll (c : Context) (force : Bool) (number said : Nat) (calls : List Request)
    (s : Store Request) : s.Becomes (saveAll c force number said calls s).store := by
  induction calls generalizing number said s with
  | nil => exact .refl s
  | cons r more ih =>
    rw [saveAll]
    cases hsave : saveCall c number force r s with
    | error e => exact .refl s
    | ok after =>
      have hsaved : s.Becomes (after.getD s) := becomes_saveCall hsave
      dsimp only
      split
      · exact hsaved
      · exact hsaved.trans (ih _ _ _)

theorem becomes_delete {c : Context} {name : String} {d after : Data} {output : String}
    (h : Cli.delete c name d = .ok (output, after)) : d.Becomes after := by
  obtain ⟨⟨found, requests⟩, hdelete, h⟩ := exists_of_bind_ok h
  have hbecomes := Store.becomes_of_delete (eq_ok_of_mapError hdelete)
  cases found with
  | true =>
    cases h
    exact ⟨hbecomes, .refl d.environments⟩
  | false => cases h

theorem becomes_deleteEnvironment {c : Context} {name : String} {d after : Data} {output : String}
    (h : Cli.deleteEnvironment c name d = .ok (output, after)) : d.Becomes after := by
  obtain ⟨⟨found, environments⟩, hdelete, h⟩ := exists_of_bind_ok h
  have hbecomes := Store.becomes_of_delete (eq_ok_of_mapError hdelete)
  cases found with
  | true =>
    cases h
    exact ⟨.refl d.requests, hbecomes⟩
  | false => cases h

theorem becomes_importCurl {c : Context} {command : String} {name group : Option String}
    {force : Bool} {d after : Data} {output : String}
    (h : Cli.importCurl c command name group force d = .ok (output, after)) : d.Becomes after := by
  obtain ⟨r, -, h⟩ := exists_of_bind_ok h
  obtain ⟨requests, hsave, h⟩ := exists_of_bind_ok h
  have hbecomes := becomes_saveCall hsave
  cases requests with
  | none =>
    cases h
    exact .refl d
  | some requests =>
    cases h
    exact ⟨hbecomes, .refl d.environments⟩

/-- The calls of an archive are renamed, filtered and saved, which changes the requests alone. -/
theorem becomes_importCalls (c : Context) (options : ArchiveOptions) (rs : List Request)
    (d : Data) : d.Becomes (importCalls c options rs d).data := by
  rw [importCalls]
  split
  · exact .refl d
  · exact ⟨becomes_saveAll c options.force 0 0 _ d.requests, .refl d.environments⟩

/-- An archive that is only listed changes no store. -/
theorem data_importArchive_of_list (c : Context) (path : String) {options : ArchiveOptions}
    (h : options.list = true) (d : Data) : (importArchive c path options d).data = d := by
  rw [importArchive]
  cases c.read path with
  | error e => rfl
  | ok text =>
    dsimp only
    rw [if_pos h]
    refine data_ofExcept (P := (· = d)) rfl ?_
    intro output after hok
    obtain ⟨lines, -, hlines⟩ := exists_of_map_ok hok
    exact (Prod.mk.inj hlines).2.symm

/-- An archive that is not only shown is imported, if its calls are found. -/
theorem importArchive_of_not_list (c : Context) (path : String) {options : ArchiveOptions}
    (h : options.list = false) (d : Data) :
    (∃ e, importArchive c path options d = { data := d, failure := some e }) ∨
      ∃ rs, importArchive c path options d = importCalls c options rs d := by
  rw [importArchive]
  cases c.read path with
  | error e => exact Or.inl ⟨_, rfl⟩
  | ok text =>
    dsimp only
    rw [if_neg (by rw [h]; exact Bool.false_ne_true)]
    cases archived text options.entry with
    | error e => exact Or.inl ⟨_, rfl⟩
    | ok rs => exact Or.inr ⟨rs, rfl⟩

/-- The import of an archive makes permitted changes, whether it ends well or not. -/
theorem becomes_importArchive (c : Context) (path : String) (options : ArchiveOptions) (d : Data) :
    d.Becomes (importArchive c path options d).data := by
  cases hlist : options.list with
  | true =>
    rw [data_importArchive_of_list c path hlist]
    exact .refl d
  | false =>
    rcases importArchive_of_not_list c path hlist d with ⟨e, h⟩ | ⟨rs, h⟩
    · rw [h]
      exact .refl d
    · rw [h]
      exact becomes_importCalls c options rs d

/-- An imported environment is a permitted change: it is filed under the name that it was given. -/
theorem becomes_importEnvironment {c : Context} {name path : String} {force : Bool}
    {d after : Data} {output : String}
    (h : Cli.importEnvironment c name path force d = .ok (output, after)) : d.Becomes after := by
  obtain ⟨e, -, h⟩ := exists_of_bind_ok h
  obtain ⟨may, -, h⟩ := exists_of_bind_ok h
  cases may with
  | true =>
    obtain ⟨environments, hsave, h⟩ := exists_of_bind_ok h
    cases h
    exact ⟨.refl d.requests, Or.inr (Store.rewritten_of_save (eq_ok_of_mapError hsave))⟩
  | false =>
    cases h
    exact .refl d

/-- A variable that is set is a permitted change: its record is filed under its own name. -/
theorem becomes_setVariable {c : Context} {name key value : String} {d after : Data}
    {output : String} (h : Cli.setVariable c name key value d = .ok (output, after)) :
    d.Becomes after := by
  obtain ⟨e, -, h⟩ := exists_of_bind_ok h
  obtain ⟨environments, hsave, h⟩ := exists_of_bind_ok h
  cases h
  exact ⟨.refl d.requests, Or.inr (Store.rewritten_of_save (eq_ok_of_mapError hsave))⟩

/-- **No command does more to a store than to write it anew**, and that only from records that it
has read of it. -/
theorem becomes_perform (c : Context) (d : Data) (command : Command) :
    d.Becomes (command.perform c d).data := by
  have hsaid : ∀ x, d.Becomes (Outcome.said d x).data := by
    intro x
    rw [data_said]
    exact .refl d
  cases command with
  | run name asked => exact hsaid _
  | list group => exact hsaid _
  | delete name => exact data_ofExcept (.refl d) fun _ _ => becomes_delete
  | importCurl text name group force =>
    exact data_ofExcept (.refl d) fun _ _ => becomes_importCurl
  | importArchive path options => exact becomes_importArchive c path options d
  | listEnvironments => exact hsaid _
  | showEnvironment name => exact hsaid _
  | importEnvironment name path force =>
    exact data_ofExcept (.refl d) fun _ _ => becomes_importEnvironment
  | setVariable name key value => exact data_ofExcept (.refl d) fun _ _ => becomes_setVariable
  | deleteEnvironment name => exact data_ofExcept (.refl d) fun _ _ => becomes_deleteEnvironment

/-! ## Commands that only read -/

/-- A step that may fail, but not at writing. -/
def ReadsAtMost {α : Type} (x : Except Failure α) : Prop :=
  ∀ e, x = .error e → e.isOfWriting = false

section

variable {α β : Type} {x : Except Failure α}

theorem readsAtMost_ok (a : α) : ReadsAtMost (.ok a : Except Failure α) := by
  intro e h
  cases h

theorem readsAtMost_error {e : Failure} (he : e.isOfWriting = false) :
    ReadsAtMost (.error e : Except Failure α) := by
  rintro e' ⟨⟩
  exact he

/-- Two steps that write nothing write nothing together. -/
theorem ReadsAtMost.bind {f : α → Except Failure β} (hx : ReadsAtMost x)
    (hf : ∀ a, ReadsAtMost (f a)) : ReadsAtMost (x >>= f) := by
  cases x with
  | error e => exact readsAtMost_error (hx e rfl)
  | ok a => exact hf a

theorem ReadsAtMost.map {f : α → β} (hx : ReadsAtMost x) : ReadsAtMost (x.map f) := by
  cases x with
  | error e => exact readsAtMost_error (hx e rfl)
  | ok a => exact readsAtMost_ok (f a)

end

/-- What was done stays done, whether or not it can be said. -/
theorem data_heard (silence : Option Silence) (o : Outcome) : (o.heard silence).data = o.data := by
  unfold Outcome.heard
  split <;> rfl

section

variable {c : Context} {force : Bool}

end

end Cli

end CallBook
