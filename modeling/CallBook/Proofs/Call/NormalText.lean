import CallBook.Proofs.Import.Entry
import CallBook.Proofs.Json.Records
import CallBook.Proofs.Storage.Refinement

/-!
# The normal text of a record

A saved call or an environment may be written in many ways: as an object with its fields in any
order, some missing, among others that mean nothing here, or as a list; a method in any spelling, a
group that is `null`. `Kind.Says` tells what such a value says, whatever its form, and that is what
is read from its text. The text that is written is one for each record: reading it gives the record
(`LawfulStored`), so that it is its own normal text, and two texts have one normal text exactly if
they are read alike.

Main result: `normalText_isNormal`.
-/

namespace CallBook

open Json (Value Reads Supplies)
open Import (IsText Nullable TextOrEmpty)

/-! ## What a value says -/

/-- An object of texts that may be absent. A key that is repeated has its last value. -/
inductive MapOrEmpty : Option Value → OrderedMap String → Prop
  | absent : MapOrEmpty none .empty
  | given (pairs : List (String × String)) :
      MapOrEmpty (some (.object (pairs.map fun p => (p.1, .string p.2)))) (.ofList pairs)

/-- These members say the call. A method may be any text. -/
structure Request.SaidBy (r : Request) (member : String → Option Value) : Prop where
  name : TextOrEmpty (member "name") r.name
  url : TextOrEmpty (member "url") r.url
  method : ∃ text, TextOrEmpty (member "httpMethod") text ∧ r.method = .ofText text
  headers : MapOrEmpty (member "headers") r.headers
  body : MapOrEmpty (member "body") r.body
  group : Nullable IsText (member "groupName") r.group

/-- These members say the environment. -/
structure Environment.SaidBy (e : Environment) (member : String → Option Value) : Prop where
  name : TextOrEmpty (member "name") e.name
  vars : MapOrEmpty (member "variables") e.vars

/-- The names of the fields, in the order of a list of them. -/
def Kind.fieldNames : Kind → List String
  | call => ["name", "url", "httpMethod", "headers", "body", "groupName"]
  | environment => ["name", "variables"]

/-- These members say the record. -/
def Kind.SaidBy : (k : Kind) → k.Record → (String → Option Value) → Prop
  | call => Request.SaidBy
  | environment => Environment.SaidBy

/-- The value says the record, in one form or another. -/
def Kind.Says (k : Kind) (v : Value) (a : k.Record) : Prop :=
  ∃ member, Supplies k.fieldNames v member ∧ k.SaidBy a member

/-! ## Reading what is said -/

section Members

variable {layout : Json.Layout} {depth level : Nat} {m : Option Value} {v : Value}

/-- A text that may be absent is read where it is present. -/
theorem Import.TextOrEmpty.reads {s : String} (h : TextOrEmpty m s) (hm : m = some v) :
    Reads (Json.string depth) (v.write layout level) s := by
  subst hm
  cases h with
  | given h =>
    cases h
    exact Json.reads_stringAs .string s

/-- A map that may be absent is read where it is present. -/
theorem MapOrEmpty.reads {map : OrderedMap String} (h : MapOrEmpty m map) (hm : m = some v) :
    Reads (Json.stringMap (depth + 1)) (v.write layout level) map := by
  subst hm
  cases h with
  | given pairs => exact Json.reads_stringMap_ofList depth pairs

/-- A text that may be `null` is read where it is present. -/
theorem Import.Nullable.reads {o : Option String} (h : Nullable IsText m o) (hm : m = some v) :
    Reads (Json.optionalString depth) (v.write layout level) o := by
  subst hm
  cases h with
  | null => exact Json.reads_optional_null _
  | @given _ s h =>
    cases h
    exact (Json.reads_stringAs .string s).optional (by decide) (by decide)

theorem Import.TextOrEmpty.of_none {s : String} (h : TextOrEmpty m s) (hm : m = none) :
    "" = s := by
  subst hm
  cases h
  rfl

theorem MapOrEmpty.of_none {map : OrderedMap String} (h : MapOrEmpty m map) (hm : m = none) :
    .empty = map := by
  subst hm
  cases h
  rfl

theorem Import.Nullable.of_none {o : Option String} (h : Nullable IsText m o) (hm : m = none) :
    none = o := by
  subst hm
  cases h
  rfl

/-- A field that was supplied has its value, and one that was not has the value of an absent
member. -/
theorem ite_supplied {α : Type} {p : Prop} [Decidable p] {a default : α} (hp : p ↔ m ≠ none)
    (habsent : m = none → default = a) : (if p then a else default) = a := by
  split
  · rfl
  · next h => exact habsent (not_not.mp (hp.not.mp h))

end Members

/-- The call as far as it is known once these fields have been read. -/
def Request.known (r : Request) (seen : List String) : Request where
  name := if "name" ∈ seen then r.name else ""
  url := if "url" ∈ seen then r.url else ""
  method := if "httpMethod" ∈ seen then r.method else .get
  headers := if "headers" ∈ seen then r.headers else .empty
  body := if "body" ∈ seen then r.body else .empty
  group := if "groupName" ∈ seen then r.group else none

/-- The environment as far as it is known once these fields have been read. -/
def Environment.known (e : Environment) (seen : List String) : Environment where
  name := if "name" ∈ seen then e.name else ""
  vars := if "variables" ∈ seen then e.vars else .empty

section Records

variable {layout : Json.Layout} {depth level : Nat} {v : Value} {member : String → Option Value}

/-- A call is read from any writing of the members that say it. -/
theorem Request.reads_of_saidBy {r : Request} (hr : r.SaidBy member)
    (hv : Supplies (Request.jsonFields.map (·.name)) v member) :
    Reads (Request.readJson (depth + 2)) (v.write layout level) r := by
  obtain ⟨text, htext, hmethod⟩ := hr.method
  show Reads (Json.recordOf "Request" Request.jsonFields (r.known []) (depth + 2)) _ _
  refine Json.reads_recordOf_of_supplies (by decide) hv ?_ ?_
  -- each field is read as what its member says, and the others are known no more than before
  · intro field hfield w hw
    simp only [Request.jsonFields, List.mem_cons, List.not_mem_nil, or_false] at hfield
    rcases hfield with rfl | rfl | rfl | rfl | rfl | rfl
    · exact Json.readsField_of (hr.name.reads hw) fun seen => by simp [Request.known]
    · exact Json.readsField_of (hr.url.reads hw) fun seen => by simp [Request.known]
    · exact Json.readsField_of (htext.reads hw) fun seen => by simp [Request.known, hmethod]
    · exact Json.readsField_of (hr.headers.reads hw) fun seen => by simp [Request.known]
    · exact Json.readsField_of (hr.body.reads hw) fun seen => by simp [Request.known]
    · exact Json.readsField_of (hr.group.reads hw) fun seen => by simp [Request.known]
  -- what was not supplied has its default, and a call that names no method is a `GET`
  · intro seen hseen
    have hget : member "httpMethod" = none → Method.get = r.method := by
      intro hnone
      rw [hmethod, ← htext.of_none hnone]
      decide
    rw [Request.known, ite_supplied (hseen "name" (by decide)) hr.name.of_none,
      ite_supplied (hseen "url" (by decide)) hr.url.of_none,
      ite_supplied (hseen "httpMethod" (by decide)) hget,
      ite_supplied (hseen "headers" (by decide)) hr.headers.of_none,
      ite_supplied (hseen "body" (by decide)) hr.body.of_none,
      ite_supplied (hseen "groupName" (by decide)) hr.group.of_none]

/-- An environment is read from any writing of the members that say it. -/
theorem Environment.reads_of_saidBy {e : Environment} (he : e.SaidBy member)
    (hv : Supplies (Environment.jsonFields.map (·.name)) v member) :
    Reads (Environment.readJson (depth + 2)) (v.write layout level) e := by
  show Reads (Json.recordOf "Environment" Environment.jsonFields (e.known []) (depth + 2)) _ _
  refine Json.reads_recordOf_of_supplies (by decide) hv ?_ ?_
  · intro field hfield w hw
    simp only [Environment.jsonFields, List.mem_cons, List.not_mem_nil, or_false] at hfield
    rcases hfield with rfl | rfl
    · exact Json.readsField_of (he.name.reads hw) fun seen => by simp [Environment.known]
    · exact Json.readsField_of (he.vars.reads hw) fun seen => by simp [Environment.known]
  · intro seen hseen
    rw [Environment.known, ite_supplied (hseen "name" (by decide)) he.name.of_none,
      ite_supplied (hseen "variables" (by decide)) he.vars.of_none]

/-- Whatever says a record is read as the record. -/
theorem Kind.reads_of_says {k : Kind} {a : k.Record} (h : k.Says v a) :
    Reads (Stored.readJson (depth + 2)) (v.write layout level) a := by
  obtain ⟨member, hv, ha⟩ := h
  cases k with
  | call => exact Request.reads_of_saidBy ha hv
  | environment => exact Environment.reads_of_saidBy ha hv

end Records

/-! ## Texts -/

section Texts

/-- What is read from a text as a record. -/
def readRecord (α : Type) [Stored α] (text : String) : Except String α :=
  Json.readText (Stored.readJson Json.maxDepth) text

/-- The text of a record, on one line. -/
def recordText {α : Type} [Stored α] (a : α) : String := (Stored.toJson a).compact

/-- The text of the record that is read from a text. -/
def normalText (α : Type) [Stored α] (text : String) : Except String String :=
  (readRecord α text).map recordText

variable {α : Type} [Stored α]

/-- A record is read from a text that holds nothing else. -/
theorem readRecord_of_reads {text : List Char} {a : α}
    (h : Reads (Stored.readJson Json.maxDepth) text a) :
    readRecord α (String.ofList text) = .ok a := by
  rw [readRecord, Json.readText, String.toList_ofList, h.readChars]

/-- The normal text is that of the record which is read. -/
theorem normalText_eq_ok_iff {text written : String} :
    normalText α text = .ok written ↔ ∃ a, readRecord α text = .ok a ∧ recordText a = written := by
  unfold normalText
  cases readRecord α text <;> simp [Except.map]

variable [LawfulStored α]

/-- The text of a record is read back as the record. -/
theorem readRecord_recordText (a : α) : readRecord α (recordText a) = .ok a :=
  readRecord_of_reads (LawfulStored.reads_toJson .compact 125 0 a)

/-- Different records have different texts. -/
theorem recordText_injective : Function.Injective (recordText : α → String) := by
  intro a b h
  have hread := readRecord_recordText a
  rw [h, readRecord_recordText] at hread
  exact (Except.ok.inj hread).symm

/-- What is read from a text is told by its normal text. -/
theorem normalText_eq_iff {text other : String} :
    normalText α text = normalText α other ↔ readRecord α text = readRecord α other := by
  constructor
  · unfold normalText
    cases readRecord α text with
    | error e =>
      cases readRecord α other with
      | error f =>
        intro h
        rw [Except.error.inj h]
      | ok b =>
        intro h
        cases h
    | ok a =>
      cases readRecord α other with
      | error f =>
        intro h
        cases h
      | ok b =>
        intro h
        rw [recordText_injective (Except.ok.inj h)]
  · intro h
    rw [normalText, h, normalText]

end Texts

/-- **A record has one normal text.** A call or an environment is read back from its text. If a
text, whatever its form, is read as a record, then the text of that record is read as the same
record, and writing it anew changes nothing; two texts come to one normal text exactly if they are
read alike. Every value that says a record is read as that record: fields may be missing or stand in
any order, among others or in a list, a method may be any text and a group `null`. -/
theorem normalText_isNormal (k : Kind) :
    (∀ a : k.Record, readRecord k.Record (recordText a) = .ok a) ∧
    (∀ text written, normalText k.Record text = .ok written →
      readRecord k.Record written = readRecord k.Record text ∧
        normalText k.Record written = .ok written) ∧
    (∀ text other, normalText k.Record text = normalText k.Record other ↔
      readRecord k.Record text = readRecord k.Record other) ∧
    ∀ (v : Value) (a : k.Record) (layout : Json.Layout), k.Says v a →
      readRecord k.Record (String.ofList (v.write layout 0)) = .ok a := by
  refine ⟨readRecord_recordText, ?_, fun _ _ => normalText_eq_iff, ?_⟩
  · intro text written h
    obtain ⟨a, ha, rfl⟩ := normalText_eq_ok_iff.mp h
    have hagain := readRecord_recordText a
    exact ⟨hagain.trans ha.symm, normalText_eq_ok_iff.mpr ⟨a, hagain, rfl⟩⟩
  · intro v a layout h
    exact readRecord_of_reads (Kind.reads_of_says h)

/-- A call with its fields out of order among others, a method in another spelling, a header given
twice, a group that is `null` and two fields missing; an environment as a list. -/
theorem normalText_isNormal_forms :
    let text := "\x7b\"httpMethod\":\" pAtCh \", \"tags\":[-1.5e3,\x7b\"name\":null\x7d], "
      ++ "\"groupName\":null,\"headers\":\x7b\"A\":\"1\",\"B\":\"2\",\"A\":\"\\u0033\"\x7d,"
      ++ "\"name\":\"x\"\x7d"
    let written := "\x7b\"name\":\"x\",\"url\":\"\",\"httpMethod\":\"PATCH\","
      ++ "\"headers\":\x7b\"A\":\"3\",\"B\":\"2\"\x7d,\"body\":\x7b\x7d\x7d"
    let pairs := [("k", "v"), ("k", "w")]
    let listed := Value.array [.string "e", .object (pairs.map fun p => (p.1, .string p.2))]
    (normalText Request text = .ok written ∧ readRecord Request written = readRecord Request text ∧
      normalText Request written = .ok written) ∧
    Kind.environment.Says listed { name := "e", vars := .ofList pairs } ∧
      readRecord Environment (String.ofList (listed.write .compact 0))
        = .ok { name := "e", vars := .ofList pairs } := by
  intro text written pairs listed
  have hwritten : normalText Request text = .ok written := by decide +kernel
  obtain ⟨hread, hagain⟩ := (normalText_isNormal .call).2.1 text written hwritten
  have hsays : Kind.environment.Says listed { name := "e", vars := .ofList pairs } :=
    ⟨_, .list (by decide), .given (.text "e"), .given pairs⟩
  have hlisted := (normalText_isNormal .environment).2.2.2 listed _ .compact hsays
  exact ⟨⟨hwritten, hread, hagain⟩, hsays, hlisted⟩

end CallBook
