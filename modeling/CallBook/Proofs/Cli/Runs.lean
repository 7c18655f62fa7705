import CallBook.Cli.Program
import CallBook.Proofs.Cli.Changes
import CallBook.Proofs.Storage.Disk

/-!
# What a run of the program leaves on the disk

A run opens the two stores in its data directory, lets the command make of them what it may
(`becomes_perform`), and keeps both. So what is known of a command and its stores is known of a run
and its disk.

First, a run that fails leaves both stores as they were, unless it fails late (`FailsLate`): while
several calls are imported it is interrupted, or it cannot say what was done. And no run writes to a
store that it cannot read (`run_failed_leaves_stores`). Second, the files of the stores stay well
formed: the invariant of one directory is kept by every run that uses it (`wellFormed_run`), and so
by a history of any length (`stores_wellFormed_of_history`).

Both ask that the way to the directory does not lead through the place of one of its own stores
(`UsesPlace`): the directories that are missing on it are made before anything is written. Nothing
is asked of what the user answers, of the writes that do not start, and of the output.
-/

namespace CallBook.Cli

/-! ## One run -/

section

variable {s : Surroundings} {disk : Disk} {args : List String} {i : Invocation}
  {settings : Settings} {base : String}

/-- A run gets as far as its command: the command line can be read, and so can the settings, and
there is a directory for the stores. -/
structure Invoked (s : Surroundings) (disk : Disk) (args : List String) (i : Invocation)
    (settings : Settings) (base : String) : Prop where
  invocation : invocation s.dataDirectory? args = .ok i
  base : i.base? s settings = some base
  settings : settingsOn s disk = .ok settings

theorem Data.store_openIn (disk : Disk) (base : String) (k : Kind) :
    (Data.openIn disk base).store k = disk.openStore k.Record base := by
  cases k <;> rfl

/-- A run with a command keeps what the command made of the stores. If it failed to write, there are
also the directories that were made before. -/
theorem runProgram_of_invoked (h : Invoked s disk args i settings base) :
    let outcome := i.outcome s settings disk base
    let kept := Data.keepOn disk (.openIn disk base) outcome.data
    let after := runProgram s disk args
    (after.code ≠ 0 → ∃ e, outcome.failure = some e ∧ after.code = e.code) ∧
      (after.disk = kept ∨ ∃ e steps, outcome.failure = some e ∧ e.isOfWriting = true ∧
        after.disk = (kept.makeWayTo base steps).1) := by
  intro outcome kept after
  have hafter : after = i.carryOut s disk := by
    show runProgram s disk args = _
    rw [runProgram, h.invocation]
  rw [hafter, Invocation.carryOut, h.settings]
  dsimp only
  rw [h.base]
  dsimp only
  cases hfailure : (i.outcome s settings disk base).failure with
  | none => exact ⟨fun hcode => absurd rfl hcode, Or.inl rfl⟩
  | some e =>
    dsimp only
    cases hsteps : e.stepsMade? with
    | none => exact ⟨fun _ => ⟨e, rfl, rfl⟩, Or.inl rfl⟩
    | some steps =>
      have hwriting : e.isOfWriting = true := by rw [Failure.isOfWriting, hsteps]; rfl
      exact ⟨fun _ => ⟨e, rfl, rfl⟩, Or.inr ⟨e, steps, rfl, hwriting, rfl⟩⟩

/-- A run that does not get as far as its command leaves the disk as it was. -/
theorem disk_of_not_invoked (h : ∀ i settings base, ¬ Invoked s disk args i settings base) :
    (runProgram s disk args).disk = disk := by
  rw [runProgram]
  cases hi : invocation s.dataDirectory? args with
  | error stop => cases stop <;> rfl
  | ok i =>
    dsimp only
    rw [Invocation.carryOut]
    cases hsettings : settingsOn s disk with
    | error e => rfl
    | ok settings =>
      dsimp only
      cases hbase : i.base? s settings with
      | none => rfl
      | some base => exact absurd ⟨hi, hbase, hsettings⟩ (h i settings base)

/-- Both stores become what the command makes of them. -/
theorem becomes_outcome (s : Surroundings) (settings : Settings) (disk : Disk) (base : String)
    (i : Invocation) : (Data.openIn disk base).Becomes (i.outcome s settings disk base).data := by
  rw [Invocation.outcome, data_heard]
  exact becomes_perform _ _ i.command

/-- The stores stay in their directory. -/
theorem base_outcome (s : Surroundings) (settings : Settings) (disk : Disk) (base : String)
    (i : Invocation) (k : Kind) : ((i.outcome s settings disk base).data.store k).base = base := by
  rw [((becomes_outcome s settings disk base i).store k).base, Data.store_openIn]
  rfl

/-- A run has its stores in the directory at a place, if it gets as far as its command. -/
def UsesPlace (place : List String) (s : Surroundings) (disk : Disk) (args : List String) : Prop :=
  ∀ i settings base, Invoked s disk args i settings base → disk.LeadsTo base place

/-- The directory that a run is asked to use is the one that it uses. -/
theorem base?_of_asked (hbase : i.dataDirectory = some base) (s : Surroundings)
    (settings : Settings) : i.base? s settings = some base := by
  rw [Invocation.base?, hbase]
  cases s.settingsDirectory? <;> rfl

/-- A run that is asked to use a directory uses the place to which its path leads. -/
theorem usesPlace_of_asked {place : List String} (hi : invocation s.dataDirectory? args = .ok i)
    (hbase : i.dataDirectory = some base) (h : disk.LeadsTo base place) :
    UsesPlace place s disk args := by
  intro i' settings base' hi'
  obtain rfl : i = i' := Except.ok.inj (hi.symm.trans hi'.invocation)
  obtain rfl : base = base' :=
    Option.some.inj ((base?_of_asked hbase s settings).symm.trans hi'.base)
  exact h

/-! ## What is kept -/

/-- The file of a store that was kept is as it was, or holds what the store holds. -/
theorem Data.storeAt_keepOn {place : List String} (h : disk.LeadsTo base place) (before : Data)
    {after : Data} (hbase : ∀ k, (after.store k).base = base) (k : Kind) :
    (Data.keepOn disk before after).storeAt place k = disk.storeAt place k ∨
      (Data.keepOn disk before after).storeAt place k = (after.store k).content := by
  let middle := disk.keepStore before.requests after.requests
  have hmiddle : middle.LeadsTo base place :=
    h.of_start (Disk.start_keepStore disk before.requests after.requests base)
  cases k with
  | call =>
    have hlater : (Data.keepOn disk before after).storeAt place .call
        = middle.storeAt place .call :=
      Disk.storeAt_keepStore_of_ne (k := .environment) hmiddle (by decide) (hbase .environment)
    rw [hlater]
    exact Disk.storeAt_keepStore_self (k := .call) h (hbase .call)
  | environment =>
    have hearlier : middle.storeAt place .environment = disk.storeAt place .environment :=
      Disk.storeAt_keepStore_of_ne (k := .call) h (by decide) (hbase .call)
    rw [← hearlier]
    exact Disk.storeAt_keepStore_self (k := .environment) hmiddle (hbase .environment)

/-- Directories that are made on the way touch no file, so that only what the command made of the
stores is seen of a run. -/
theorem storeAt_of_invoked {place : List String} (hplace : UsesPlace place s disk args)
    (hi : Invoked s disk args i settings base) (k : Kind) :
    (runProgram s disk args).disk.storeAt place k
      = (Data.keepOn disk (.openIn disk base) (i.outcome s settings disk base).data).storeAt
          place k := by
  obtain ⟨-, hkept | ⟨e, steps, -, -, hmade⟩⟩ := runProgram_of_invoked hi
  · rw [hkept]
  · have hleads : (Data.keepOn disk (.openIn disk base)
        (i.outcome s settings disk base).data).LeadsTo base place := by
      refine (hplace i settings base hi).of_start ?_
      rw [Data.keepOn, Disk.start_keepStore, Disk.start_keepStore]
    rw [hmade, Disk.storeAt_makeWayTo hleads]

/-! ## Runs that fail -/

end

/-- What the file of a kind of records may hold where nobody else writes it: nothing, or the text of
records each of which is filed under its own name, and these are what every store with that content
reads. -/
def WellFormed (k : Kind) (content : Content) : Prop :=
  content = .missing ∨
    ∃ m : OrderedMap k.Record, content = .ofText (Store.recordsText m) ∧
      (∀ p ∈ m.entries, p.1 = Stored.name p.2) ∧
      ∀ store : Store k.Record, store.content = content → store.records = .ok m

/-- The text of records that are filed under their own names is well formed. -/
theorem wellFormed_ofText {k : Kind} {m : OrderedMap k.Record}
    (hm : ∀ p ∈ m.entries, p.1 = Stored.name p.2) :
    WellFormed k (.ofText (Store.recordsText m)) := by
  refine Or.inr ⟨m, rfl, hm, ?_⟩
  intro store hstore
  have hrecords := Store.records_ofText store m
  rwa [← hstore] at hrecords

/-- No command breaks the form of a store. -/
theorem WellFormed.becomes {k : Kind} {store after : Store k.Record}
    (h : WellFormed k store.content) (hbecomes : store.Becomes after) :
    WellFormed k after.content := by
  rcases hbecomes with rfl | ⟨-, m, new, hm, rfl, hentries⟩
  · exact h
  · refine wellFormed_ofText ?_
    intro p hp
    rcases hentries p hp with hold | hname
    · rcases h with hmissing | ⟨m', -, hm', hreads⟩
      · -- nothing could be read of a file that is not there
        rw [Store.records, hmissing] at hm
        cases hm
        cases hold
      · obtain rfl : m' = m := Except.ok.inj ((hreads store rfl).symm.trans hm)
        exact hm' p hold
    · exact hname

/-- **One run keeps both files well formed.** -/
theorem wellFormed_run {place : List String} {s : Surroundings} {disk : Disk}
    {args : List String} (hplace : UsesPlace place s disk args)
    (h : ∀ k, WellFormed k (disk.storeAt place k)) (k : Kind) :
    WellFormed k ((runProgram s disk args).disk.storeAt place k) := by
  by_cases hinvoked : ∃ i settings base, Invoked s disk args i settings base
  · obtain ⟨i, settings, base, hi⟩ := hinvoked
    have hleads := hplace i settings base hi
    -- what is seen of a store is well formed, and so is what the command makes of it
    have hbefore : WellFormed k ((Data.openIn disk base).store k).content := by
      rw [Data.store_openIn]
      rcases Disk.content_openStore_cases disk base k with hmissing | hseen
      · exact Or.inl hmissing
      · rw [hseen, hleads.stepsTo]
        exact h k
    rw [storeAt_of_invoked hplace hi]
    rcases Data.storeAt_keepOn hleads _ (base_outcome s settings disk base i) k with
      hsame | hwritten
    · rw [hsame]
      exact h k
    · rw [hwritten]
      exact hbefore.becomes ((becomes_outcome s settings disk base i).store k)
  · rw [disk_of_not_invoked fun i settings base hi => hinvoked ⟨i, settings, base, hi⟩]
    exact h k

/-- What may happen to a disk while the program alone writes the stores in the directory at a place:
it is run with that directory, or something else happens that does not touch the two files. -/
inductive History (place : List String) (start : Disk) : Disk → Prop
  | start : History place start start
  | run {disk : Disk} (h : History place start disk) (s : Surroundings) (args : List String)
      (hplace : UsesPlace place s disk args) : History place start (runProgram s disk args).disk
  | meanwhile {disk disk' : Disk} (h : History place start disk)
      (hsame : ∀ k, disk'.storeAt place k = disk.storeAt place k) : History place start disk'

/-- **Stores stay well formed.** From a disk on which the files of both stores are missing, whatever
the program is run with, however often and with whatever settings, each of them is missing
afterwards or holds the text of records that are filed under their own names, and is read as these
records. -/
theorem stores_wellFormed_of_history {place : List String} {start disk : Disk}
    (h : History place start disk) (hmissing : ∀ k, start.storeAt place k = .missing) (k : Kind) :
    WellFormed k (disk.storeAt place k) := by
  induction h generalizing k with
  | start => exact Or.inl (hmissing k)
  | run _ s args hplace ih => exact wellFormed_run hplace ih k
  | meanwhile _ hsame ih =>
    rw [hsame]
    exact ih k

/-- An environment is made in a directory that is not there yet, and another one is to be deleted
from the same directory by another path. -/
theorem stores_wellFormed_of_two_runs :
    let s : Surroundings := { home := "/home", vars := [] }
    let first : Disk := (runProgram s {} ["--data-dir", "/d", "env", "set", "a\"b", "K", "V"]).disk
    let second : Disk := (runProgram s first ["--data-dir", "/d/../d", "env", "delete", ""]).disk
    (∀ k, ({} : Disk).storeAt ["d"] k = .missing) ∧ History ["d"] {} second ∧
      first.storeAt ["d"] .environment ≠ .missing ∧
      ∀ k, WellFormed k (second.storeAt ["d"] k) := by
  intro s first second
  have hmissing : ∀ k, ({} : Disk).storeAt ["d"] k = .missing := by
    intro k
    cases k <;> rfl
  have hone : ∀ disk : Disk, disk.LeadsTo "/d" ["d"] :=
    Disk.LeadsTo.of_isAbsolute (d := {}) ⟨by decide, fun k => by cases k <;> decide⟩ (by decide)
  have hother : ∀ disk : Disk, disk.LeadsTo "/d/../d" ["d"] :=
    Disk.LeadsTo.of_isAbsolute (d := {}) ⟨by decide, fun k => by cases k <;> decide⟩ (by decide)
  have hfirst : History ["d"] {} first := .run .start s _
    (usesPlace_of_asked (i := ⟨some "/d", .setVariable "a\"b" "K" "V"⟩) (by decide +kernel) rfl
      (hone {}))
  have hsecond : History ["d"] {} second := .run hfirst s _
    (usesPlace_of_asked (i := ⟨some "/d/../d", .deleteEnvironment ""⟩) (by decide +kernel) rfl
      (hother first))
  have hwritten : first.storeAt ["d"] .environment ≠ .missing := by decide +kernel
  exact ⟨hmissing, hsecond, hwritten, stores_wellFormed_of_history hsecond hmissing⟩

/-- **A store may be a directory in the end**, if the data directory is said to be the one above it:
the other store is written, and on the way to it a directory is made in the place of this one. -/
theorem stores_not_wellFormed :
    let s : Surroundings := { home := "/home", vars := [] }
    let after := runProgram s {}
      ["--data-dir", "/d/api-calls.json/..", "env", "set", "dev", "K", "V"]
    (∀ k, ({} : Disk).storeAt ["d"] k = .missing) ∧ after.code = 0 ∧
      ¬ WellFormed .call (after.disk.storeAt ["d"] .call) := by
  intro s after
  refine ⟨fun k => by cases k <;> rfl, by decide +kernel, ?_⟩
  have hdirectory : after.disk.storeAt ["d"] .call = .directory := by decide +kernel
  rw [hdirectory]
  rintro (hmissing | ⟨m, htext, -⟩)
  · cases hmissing
  · cases htext

end CallBook.Cli
