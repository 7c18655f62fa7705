import CallBook.Proofs.Call.Record
import CallBook.Proofs.OrderedMap
import CallBook.Proofs.Text.Utf8
import CallBook.Storage.Store

/-!
# A store is a list of named records

A store reads its file on every operation and writes it anew on every change. A `Ledger` does the
same work on a list of names and records and never reads anything back; it only keeps what the file
says. This file proves that the two cannot be told apart by any run of operations
(`Store.trace_refines_ledger`): every answer is the same, and after every operation the file of the
store holds the ledger's text, from which the ledger's records are read again.

The abstraction from store to ledger is the reader itself. What makes it hold up is that the written
form of a map of records reads back as that map (`readRecords_recordsText`), names and order
included; the step lemma (`Operation.agree_on`) then is a case for each operation, and a run is its
repetition.
-/

namespace CallBook

/-! ## Kinds of records -/

/-- Records that read back as they were written, wherever they stand in a text. -/
class LawfulStored (α : Type) [Stored α] : Prop where
  reads_toJson : ∀ (layout : Json.Layout) (depth level : Nat) (a : α),
    Json.Reads (Stored.readJson (depth + 2)) ((Stored.toJson a).write layout level) a

instance : LawfulStored Request := ⟨fun _ _ _ => Request.reads_toJson⟩

instance : LawfulStored Environment := ⟨fun _ _ _ => Environment.reads_toJson⟩

/-- The two kinds of records that are stored. -/
inductive Kind
  | call
  | environment
  deriving DecidableEq

/-- The records of a kind. -/
abbrev Kind.Record : Kind → Type
  | call => Request
  | environment => Environment

instance : (k : Kind) → Stored k.Record
  | .call => inferInstanceAs (Stored Request)
  | .environment => inferInstanceAs (Stored Environment)

instance : (k : Kind) → LawfulStored k.Record
  | .call => inferInstanceAs (LawfulStored Request)
  | .environment => inferInstanceAs (LawfulStored Environment)

/-! ## The file of a map of records -/

namespace Store

variable {α : Type} [Stored α]

/-- The text of a map of records reads back as that map. -/
theorem readRecords_recordsText [LawfulStored α] (m : OrderedMap α) :
    readRecords (recordsText m) = .ok m := by
  have hrecord : ∀ a : α, Json.Reads (Stored.readJson 126) ((Stored.toJson a).write .pretty 1) a :=
    LawfulStored.reads_toJson .pretty 124 1
  have hmap : Json.Reads (Json.mapOf Stored.readJson Json.maxDepth)
      ((Json.Value.object (m.map Stored.toJson).entries).write .pretty 0) m :=
    Json.reads_mapOf hrecord m
  rw [Json.write_object] at hmap
  have hread := (hmap.optional (by decide) (by decide)).readChars
  have htext : (recordsText m).toList
      = '{' :: Json.objectTail .pretty 0 (m.map Stored.toJson).entries := by
    rw [recordsText, Json.Value.pretty, String.toList_ofList, Json.write_object]
  have hblank : Text.isBlankText (recordsText m).toList = false := by
    rw [htext]
    rfl
  rw [readRecords, if_neg (by rw [hblank]; decide), Json.readText, htext, hread]
  rfl

/-- A write starts exactly if nothing is in its way on the disk and it is not refused. -/
theorem refusal?_eq_none_iff {s : Store α} {refused : Option Refusal} :
    s.refusal? refused = none ↔ s.blocked = none ∧ refused = none := by
  unfold refusal?
  split <;> simp_all

/-- A store that can be read is written if the write starts. -/
theorem write_of_records {s : Store α} {m : OrderedMap α} (h : s.records = .ok m)
    (new : OrderedMap α) (refused : Option Refusal) :
    s.write new refused = match s.refusal? refused with
      | some e => .error e
      | none => .ok { s with content := .ofText (recordsText new) } := by
  rw [write]
  cases s.refusal? refused with
  | some e => rfl
  | none =>
    cases hcontent : s.content with
    | missing => rfl
    | directory =>
      rw [records, hcontent] at h
      cases h
    | file bytes => rfl

/-- What was written is what is read. -/
theorem records_ofText [LawfulStored α] (s : Store α) (m : OrderedMap α) :
    records { s with content := .ofText (recordsText m) } = .ok m := by
  rw [records, Content.text?_ofText]
  simp only [readRecords_recordsText]
  rfl

end Store

/-! ## Operations -/

/-- What can be asked of a store. Only calls have groups. -/
inductive Operation : Kind → Type
  | save {k : Kind} (record : k.Record) : Operation k
  | delete {k : Kind} (name : String) : Operation k
  | load {k : Kind} (name : String) : Operation k
  | contains {k : Kind} (name : String) : Operation k
  | records {k : Kind} : Operation k
  | inGroup (group : String) : Operation .call

/-- What is answered. -/
inductive Answer (α : Type)
  | done
  | removed (wasThere : Bool)
  | found (record : Option α)
  | isThere (b : Bool)
  | all (records : List (String × α))
  | listed (records : List α)

/-- An operation on a store: the answer, and the store after it. What fails leaves the store as it
was. -/
def Operation.onStore : {k : Kind} → Operation k → Store k.Record →
    Except StoreError (Answer k.Record) × Store k.Record
  | _, .save record, s =>
    match s.save record with
    | .ok after => (.ok .done, after)
    | .error e => (.error e, s)
  | _, .delete name, s =>
    match s.delete name with
    | .ok (wasThere, after) => (.ok (.removed wasThere), after)
    | .error e => (.error e, s)
  | _, .load name, s => ((s.load name).map .found, s)
  | _, .contains name, s => ((s.contains name).map .isThere, s)
  | _, .records, s => (s.records.map fun m => .all m.entries, s)
  | _, .inGroup group, s => ((s.inGroup group).map .listed, s)

/-- The answers of a run of operations, each with the store after it. -/
def Store.trace {k : Kind} : Store k.Record → List (Operation k) →
    List (Except StoreError (Answer k.Record) × Store k.Record)
  | _, [] => []
  | s, op :: more => op.onStore s :: trace (op.onStore s).2 more

/-! ## Ledgers -/

/-- Named records in the order in which their names first came, and what the file says. -/
structure Ledger (α : Type) where
  records : List (String × α)
  file : Content

namespace Ledger

section

variable {α : Type} [Stored α]

/-- The text of named records: one JSON object in the layout of one member a line. -/
def text (records : List (String × α)) : String :=
  (Json.Value.object (records.map fun p => (p.1, Stored.toJson p.2))).pretty

/-- A record goes under its own name: in the place of the record of that name, else last. -/
def upsert (record : α) (records : List (String × α)) : List (String × α) :=
  if Stored.name record ∈ records.map Prod.fst then
    records.map fun p => if p.1 = Stored.name record then (Stored.name record, record) else p
  else records ++ [(Stored.name record, record)]

/-- New records, and their text in the file; a refusal changes neither. -/
def change (l : Ledger α) (refusal : Option StoreError) (answer : Answer α)
    (records : List (String × α)) : Except StoreError (Answer α) × Ledger α :=
  match refusal with
  | some e => (.error e, l)
  | none => (.ok answer, ⟨records, .ofText (text records)⟩)

end

end Ledger

/-- An operation on a ledger whose changes may be refused. -/
def Operation.onLedger (refusal : Option StoreError) : {k : Kind} → Operation k →
    Ledger k.Record → Except StoreError (Answer k.Record) × Ledger k.Record
  | _, .save record, l => l.change refusal .done (Ledger.upsert record l.records)
  | _, .delete name, l =>
    if name ∈ l.records.map Prod.fst then
      l.change refusal (.removed true) (l.records.filter fun p => p.1 ≠ name)
    else (.ok (.removed false), l)
  | _, .load name, l => (.ok (.found ((l.records.find? fun p => p.1 = name).map Prod.snd)), l)
  | _, .contains name, l => (.ok (.isThere (name ∈ l.records.map Prod.fst)), l)
  | _, .records, l => (.ok (.all l.records), l)
  | _, .inGroup group, l =>
    (.ok (.listed ((l.records.map Prod.snd).filter fun r => r.group = some group)), l)

/-- The answers of a run of operations, each with the ledger after it. -/
def Ledger.trace {k : Kind} (refusal : Option StoreError) : Ledger k.Record →
    List (Operation k) → List (Except StoreError (Answer k.Record) × Ledger k.Record)
  | _, [] => []
  | l, op :: more => op.onLedger refusal l :: trace refusal (op.onLedger refusal l).2 more

/-! ## The simulation -/

/-- The store's file is the ledger's, and the ledger's records are read from it. -/
structure Holds {α : Type} [Stored α] (s : Store α) (l : Ledger α) : Prop where
  file : s.content = l.file
  records : ∃ m, s.records = .ok m ∧ m.entries = l.records

/-- The same answer, and a store that holds a ledger. -/
def Agree {α : Type} [Stored α] (a : Except StoreError (Answer α) × Store α)
    (b : Except StoreError (Answer α) × Ledger α) : Prop :=
  a.1 = b.1 ∧ Holds a.2 b.2

section

variable {α : Type} [Stored α]

/-- Insertion into the map of a store is insertion into the ledger. -/
theorem Ledger.entries_insert (record : α) (m : OrderedMap α) :
    (m.insert (Stored.name record) record).entries = Ledger.upsert record m.entries := by
  rw [OrderedMap.entries_insert, Ledger.upsert]
  split
  · next h => exact Entries.insert_of_mem m.nodup h record
  · next h => exact Entries.insert_of_not_mem h record

/-- Writing new records and changing the ledger to them agree, whether or not the directory
refuses, and it refuses later if it does so now. -/
theorem Holds.change [LawfulStored α] {s : Store α} {l : Ledger α} (h : Holds s l)
    (new : OrderedMap α) (answer : Answer α) {outcome : Except StoreError (Answer α) × Store α}
    (ho : outcome = match s.write new with
      | .ok after => (.ok answer, after)
      | .error e => (.error e, s)) :
    Agree outcome (l.change s.refusal? answer new.entries) ∧ outcome.2.refusal? = s.refusal? := by
  obtain ⟨m, hm, -⟩ := h.records
  rw [Store.write_of_records hm new none] at ho
  subst ho
  cases hr : s.refusal? with
  | some e => exact ⟨⟨rfl, h⟩, hr⟩
  | none => exact ⟨⟨rfl, rfl, new, Store.records_ofText s new, rfl⟩, hr⟩

/-- Saving a record writes the map with it. -/
theorem Store.save_of_records {s : Store α} {m : OrderedMap α}
    (hm : s.records = .ok m) (record : α) (refused : Option Refusal) :
    s.save record refused = s.write (m.insert (Stored.name record) record) refused := by
  rw [Store.save, hm]
  rfl

/-- Where nothing is in the way, a record that is saved is in the text of the store. -/
theorem Store.save_of_unblocked {s : Store α} {m : OrderedMap α} (hm : s.records = .ok m)
    (hb : s.blocked = none) (record : α) :
    s.save record
      = .ok { s with content := .ofText (recordsText (m.insert (Stored.name record) record)) } := by
  rw [Store.save_of_records hm, Store.write_of_records hm,
    Store.refusal?_eq_none_iff.mpr ⟨hb, rfl⟩]

/-- Deleting a record writes the map without it, if there was one. -/
theorem Store.delete_of_records {s : Store α} {m : OrderedMap α}
    (hm : s.records = .ok m) (name : String) :
    s.delete name = if name ∈ m.entries.map Prod.fst
      then (s.write (m.erase name)).map fun after => (true, after) else .ok (false, s) := by
  have hcontains : m.contains name = decide (name ∈ m.entries.map Prod.fst) :=
    OrderedMap.contains_eq_mem m name
  rw [Store.delete, hm]
  show (if m.contains name = true
    then (s.write (m.erase name)).bind fun after => .ok (true, after) else .ok (false, s)) = _
  by_cases hname : name ∈ m.entries.map Prod.fst
  · rw [if_pos (hcontains.trans (decide_eq_true hname)), if_pos hname]
    cases s.write (m.erase name) <;> rfl
  · rw [if_neg (by rw [hcontains, decide_eq_false hname]; decide), if_neg hname]

end

variable {k : Kind}

/-- One operation on a store does what it does on the ledger. -/
theorem Operation.agree_on (op : Operation k) {s : Store k.Record} {l : Ledger k.Record}
    (h : Holds s l) :
    Agree (op.onStore s) (op.onLedger s.refusal? l) ∧ (op.onStore s).2.refusal? = s.refusal? := by
  obtain ⟨m, hm, hl⟩ := h.records
  cases op with
  | save record =>
    have hentries := Ledger.entries_insert record m
    rw [hl] at hentries
    rw [onLedger, ← hentries]
    -- the map with the record is the ledger with it, so that both write the same text
    refine h.change _ _ ?_
    rw [onStore, Store.save_of_records hm]
    cases s.write (m.insert (Stored.name record) record) <;> rfl
  | delete name =>
    rw [onStore, onLedger, Store.delete_of_records hm, hl]
    by_cases hname : name ∈ l.records.map Prod.fst
    · have hentries : (m.erase name).entries = l.records.filter fun p => p.1 ≠ name := by
        rw [OrderedMap.entries_erase, Entries.erase_eq_filter m.nodup, hl]
      rw [if_pos hname, if_pos hname, ← hentries]
      refine h.change _ _ ?_
      cases s.write (m.erase name) <;> rfl
    · -- nothing is written where there is nothing to delete
      rw [if_neg hname, if_neg hname]
      exact ⟨⟨rfl, h⟩, rfl⟩
  | load name =>
    have hfind : m.get? name = (l.records.find? fun p => p.1 = name).map Prod.snd := by
      rw [OrderedMap.get?, Entries.lookup_eq_find?, hl]
    rw [onStore, onLedger, Store.load, hm, ← hfind]
    exact ⟨⟨rfl, h⟩, rfl⟩
  | contains name =>
    have hmem : m.contains name = decide (name ∈ l.records.map Prod.fst) := by
      rw [OrderedMap.contains_eq_mem, hl]
      rfl
    rw [onStore, onLedger, Store.contains, hm, ← hmem]
    exact ⟨⟨rfl, h⟩, rfl⟩
  | records =>
    rw [onStore, onLedger, hm, ← hl]
    exact ⟨⟨rfl, h⟩, rfl⟩
  | inGroup group =>
    rw [onStore, onLedger, Store.inGroup, hm, ← hl]
    exact ⟨⟨rfl, h⟩, rfl⟩

/-- A store that holds a ledger answers any operations as the ledger does, and keeps holding it. -/
theorem Store.trace_agrees {s : Store k.Record} {l : Ledger k.Record} (h : Holds s l)
    (ops : List (Operation k)) :
    List.Forall₂ Agree (s.trace ops) (l.trace s.refusal? ops) := by
  induction ops generalizing s l with
  | nil => exact .nil
  | cons op ops ih =>
    obtain ⟨hstep, hrefusal⟩ := op.agree_on h
    -- no operation changes whether the directory refuses, so the ledger's refusal stays the same
    have hrest := ih hstep.2
    rw [hrefusal] at hrest
    exact .cons hstep hrest

/-- With a directory that does not refuse, no operation on a ledger fails. -/
theorem Operation.ok_onLedger (op : Operation k) (l : Ledger k.Record) :
    ∃ answer, (op.onLedger none l).1 = .ok answer := by
  cases op with
  | delete name =>
    rw [onLedger]
    split
    · exact ⟨_, rfl⟩
    · exact ⟨_, rfl⟩
  | save record => exact ⟨_, rfl⟩
  | load name => exact ⟨_, rfl⟩
  | contains name => exact ⟨_, rfl⟩
  | records => exact ⟨_, rfl⟩
  | inGroup group => exact ⟨_, rfl⟩

/-- A store that can be read and written answers every operation. -/
theorem Store.trace_answered {s : Store k.Record} {l : Ledger k.Record} (h : Holds s l)
    (hr : s.refusal? = none) (ops : List (Operation k)) :
    ∀ a ∈ s.trace ops, ∃ answer, a.1 = .ok answer := by
  induction ops generalizing s l with
  | nil =>
    intro a ha
    cases ha
  | cons op ops ih =>
    obtain ⟨hstep, hrefusal⟩ := op.agree_on h
    intro a ha
    rcases List.mem_cons.mp ha with rfl | ha
    · rw [hstep.1, hr]
      exact op.ok_onLedger l
    · exact ih hstep.2 (hrefusal.trans hr) a ha

theorem map_fst_of_agree {a : List (Except StoreError (Answer k.Record) × Store k.Record)}
    {b : List (Except StoreError (Answer k.Record) × Ledger k.Record)}
    (h : List.Forall₂ Agree a b) : a.map Prod.fst = b.map Prod.fst := by
  induction h with
  | nil => rfl
  | cons hab _ ih => rw [List.map_cons, List.map_cons, hab.1, ih]

/-- **A store is a list of named records.** From any file that can be read as a store, whatever run
of operations follows, each answer is the one that the ledger of the file's records gives, and after
each operation the store's file is the ledger's and reads back as the ledger's records. Where the
directory is there or can be made, every operation is answered. -/
theorem Store.trace_refines_ledger (s : Store k.Record) (m : OrderedMap k.Record)
    (hm : s.records = .ok m) (ops : List (Operation k)) :
    List.Forall₂ Agree (s.trace ops) (Ledger.trace s.refusal? ⟨m.entries, s.content⟩ ops) ∧
      (s.blocked = none → ∀ a ∈ s.trace ops, ∃ answer, a.1 = .ok answer) := by
  have h : Holds s ⟨m.entries, s.content⟩ := ⟨rfl, m, hm, rfl⟩
  refine ⟨Store.trace_agrees h ops, ?_⟩
  intro hb
  exact Store.trace_answered h (Store.refusal?_eq_none_iff.mpr ⟨hb, rfl⟩) ops

/-- The call of a name with a quote and a backslash in it is replaced in its place, found by its
group, and still there when the other call is taken out, which works once. -/
theorem Store.trace_of_two_calls :
    let old : Request := { name := "a\"b\\" }
    let new : Request := { name := "a\"b\\", url := "http://h/\n", group := some "g" }
    let m : OrderedMap Request := .ofList [("a\"b\\", old), ("Ping", { name := "Ping" })]
    let s : Store Request := { base := "data", content := .ofText (Store.recordsText m) }
    s.records = .ok m ∧
    (Store.trace (k := .call) s
        [.save new, .inGroup "g", .delete "Ping", .delete "Ping", .records]).map Prod.fst
      = [.ok .done, .ok (.listed [new]), .ok (.removed true), .ok (.removed false),
          .ok (.all [("a\"b\\", new)])] := by
  intro old new m s
  have hm : s.records = .ok m := Store.records_ofText s m
  have h := (Store.trace_refines_ledger (k := .call) s m hm
    [.save new, .inGroup "g", .delete "Ping", .delete "Ping", .records]).1
  refine ⟨hm, ?_⟩
  rw [map_fst_of_agree h]
  rfl

end CallBook
