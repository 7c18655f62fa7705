import Mathlib.Data.List.Forall2
import CallBook.Proofs.Import.Archive
import CallBook.Proofs.Import.Payloads

/-!
# What an entry of an archive becomes

The request of an entry is read with its members typed: each may be absent, some may be `null`, and
what else the request holds is ignored. `Typed` says which requests are well typed, level by level
and without reading them, and what they hold; the reader takes exactly these
(`captured?_eq_some_iff_typed`). The records inside a request may be objects or lists of what they
hold, in order; an archive that is written as the format asks has objects only (`Named`).
`Converted` and `Posts` then say what call a request makes, the fields of its body coming from the
first of three sources that has any.

An entry counts only for itself: the calls of the other entries stand before and behind its own
(`harArchive_of_some`, `harArchive_of_none`).

Main result: `harArchive_entry`.
-/

namespace CallBook.Import

open Json (Value)

/-! ## Typed requests -/

section Members

variable {α : Type}

/-- A member that is absent, `null`, or holds something. -/
inductive Nullable (Holds : Value → α → Prop) : Option Value → Option α → Prop
  | absent : Nullable Holds none none
  | null : Nullable Holds (some .null) none
  | given {v : Value} {a : α} (h : Holds v a) : Nullable Holds (some v) (some a)

/-- A list whose items hold these things. -/
inductive IsList (Holds : Value → α → Prop) : Value → List α → Prop
  | items {items : List Value} {list : List α} (h : List.Forall₂ Holds items list) :
      IsList Holds (.array items) list

/-- A list that may be absent. -/
inductive ListOrEmpty (Holds : Value → α → Prop) : Option Value → List α → Prop
  | absent : ListOrEmpty Holds none []
  | given {v : Value} {list : List α} (h : IsList Holds v list) : ListOrEmpty Holds (some v) list

/-- A text. -/
inductive IsText : Value → String → Prop
  | text (s : String) : IsText (.string s) s

/-- A text that may be absent. -/
inductive TextOrEmpty : Option Value → String → Prop
  | absent : TextOrEmpty none ""
  | given {v : Value} {s : String} (h : IsText v s) : TextOrEmpty (some v) s

/-- The two members of a record, which is an object that may have them, or a list of them in order
that may end early. -/
inductive Members (first second : String) : Value → Option Value → Option Value → Prop
  | object (members : List (String × Value)) :
      Members first second (.object members) (Entries.lookup first members)
        (Entries.lookup second members)
  | list {items : List Value} (h : items.length ≤ 2) :
      Members first second (.array items) items[0]? items[1]?

end Members

/-- A record of a name and a value. -/
inductive IsPair : Value → String × String → Prop
  | record {v : Value} {name? value? : Option Value} {name value : String}
      (h : Members "name" "value" v name? value?) (hname : TextOrEmpty name? name)
      (hvalue : TextOrEmpty value? value) : IsPair v (name, value)

/-- A record of what is posted. -/
inductive IsPost : Value → PostData → Prop
  | record {v : Value} {text? params? : Option Value} {text : Option String}
      {params : Option (List (String × String))} (h : Members "text" "params" v text? params?)
      (htext : Nullable IsText text? text) (hparams : Nullable (IsList IsPair) params? params) :
      IsPost v { text, params }

/-- The members of a request are well typed, and this is what they hold. Headers, parameters and
what is posted are records: an object with any members beside its own, or a list of its own members
in order, which the format does not know. -/
structure Typed (request : List (String × Value)) (c : Captured) : Prop where
  method : Nullable IsText (Entries.lookup "method" request) c.method
  url : Nullable IsText (Entries.lookup "url" request) c.url
  headers : ListOrEmpty IsPair (Entries.lookup "headers" request) c.headers
  postData : Nullable IsPost (Entries.lookup "postData" request) c.postData

/-- A value that is an object. -/
def IsObject (v : Value) : Prop := ∃ members, v = .object members

/-- The records of a request are all given as objects. -/
structure Named (request : List (String × Value)) : Prop where
  headers : ∀ items, Entries.lookup "headers" request = some (.array items) →
    ∀ v ∈ items, IsObject v
  postData : ∀ v, Entries.lookup "postData" request = some v → v ≠ .null → IsObject v
  params : ∀ post items, Entries.lookup "postData" request = some (.object post) →
    Entries.lookup "params" post = some (.array items) → ∀ v ∈ items, IsObject v

/-! ## Reading -/

section Reading

variable {α : Type} {read : Value → Option α} {Holds : Value → α → Prop}

/-- A reader of what is not `null` serves for a member that may be. -/
theorem nullable_eq_some_iff (h : ∀ v a, read v = some a ↔ Holds v a) (hnull : read .null = none)
    {m : Option Value} {o : Option α} : nullable read m = some o ↔ Nullable Holds m o := by
  constructor
  · intro hread
    unfold nullable at hread
    split at hread
    · cases hread
      exact .absent
    · cases hread
      exact .null
    · next v _ =>
      obtain ⟨a, ha, rfl⟩ := Option.map_eq_some_iff.mp hread
      exact .given ((h v a).mp ha)
  · rintro (_ | _ | @⟨v, a, ha⟩)
    · rfl
    · rfl
    · have hread := (h v a).mpr ha
      have hgiven : nullable read (some v) = (read v).map some := by
        cases v with
        | null =>
          rw [hnull] at hread
          cases hread
        | _ => rfl
      rw [hgiven, hread]
      rfl

/-- Items are read one by one. -/
theorem mapM_eq_some_iff (h : ∀ v a, read v = some a ↔ Holds v a) {items : List Value}
    {list : List α} : items.mapM read = some list ↔ List.Forall₂ Holds items list := by
  induction items generalizing list with
  | nil =>
    rw [List.mapM_nil, List.forall₂_nil_left_iff]
    exact ⟨fun hnil => (Option.some.inj hnil).symm, fun hnil => hnil ▸ rfl⟩
  | cons v items ih =>
    simp only [List.mapM_cons, Option.bind_eq_bind, Option.bind_eq_some_iff, Option.pure_def,
      Option.some.injEq]
    constructor
    · rintro ⟨a, ha, more, hmore, rfl⟩
      exact .cons ((h v a).mp ha) (ih.mp hmore)
    · rintro (_ | ⟨ha, hmore⟩)
      exact ⟨_, (h v _).mpr ha, _, ih.mpr hmore, rfl⟩

/-- A list is read exactly if all its items are. -/
theorem listOf?_eq_some_iff (h : ∀ v a, read v = some a ↔ Holds v a) (v : Value) (list : List α) :
    listOf? read v = some list ↔ IsList Holds v list := by
  constructor
  · intro hread
    cases v with
    | array items => exact .items ((mapM_eq_some_iff h).mp hread)
    | _ => cases hread
  · rintro ⟨hitems⟩
    exact (mapM_eq_some_iff h).mpr hitems

/-- A list that may be absent is read exactly if it is absent or all its items are read. -/
theorem listOrEmpty_eq_some_iff (h : ∀ v a, read v = some a ↔ Holds v a) {m : Option Value}
    {list : List α} : listOrEmpty read m = some list ↔ ListOrEmpty Holds m list := by
  cases m with
  | none =>
    constructor
    · rintro ⟨⟩
      exact .absent
    · rintro ⟨⟩
      rfl
  | some v =>
    constructor
    · exact fun hread => .given ((listOf?_eq_some_iff h v list).mp hread)
    · rintro (_ | hlist)
      exact (listOf?_eq_some_iff h v list).mpr hlist

end Reading

theorem text?_eq_some_iff (v : Value) (s : String) : v.text? = some s ↔ IsText v s := by
  constructor
  · intro h
    cases v with
    | string t =>
      cases h
      exact .text s
    | _ => cases h
  · rintro ⟨⟩
    rfl

theorem stringOrEmpty_eq_some_iff {m : Option Value} {s : String} :
    stringOrEmpty m = some s ↔ TextOrEmpty m s := by
  cases m with
  | none =>
    constructor
    · rintro ⟨⟩
      exact .absent
    · rintro ⟨⟩
      rfl
  | some v =>
    constructor
    · exact fun h => .given ((text?_eq_some_iff v s).mp h)
    · rintro (_ | h)
      exact (text?_eq_some_iff v s).mpr h

/-- A record of two members has two members, wherever they come from. -/
theorem recordMembers_eq_some_iff {first second : String} {v : Value}
    {list : List (Option Value)} :
    recordMembers [first, second] v = some list ↔
      ∃ m n, list = [m, n] ∧ Members first second v m n := by
  constructor
  · intro h
    cases v with
    | object members =>
      cases h
      exact ⟨_, _, rfl, .object members⟩
    | array items =>
      rw [recordMembers] at h
      split at h
      · next hlen =>
        cases h
        have hlen' : items.length ≤ 2 := hlen
        refine ⟨items[0]?, items[1]?, ?_, .list hlen'⟩
        match items, hlen' with
        | [], _ => rfl
        | [_], _ => rfl
        | [_, _], _ => rfl
      · cases h
    | _ => cases h
  · rintro ⟨m, n, rfl, hmembers⟩
    cases hmembers with
    | object members => rfl
    | @list items hlen =>
      match items, hlen with
      | [], _ => rfl
      | [_], _ => rfl
      | [_, _], _ => rfl

/-- Exactly the records of a name and a value are read. -/
theorem nameValue?_eq_some_iff (v : Value) (p : String × String) :
    nameValue? v = some p ↔ IsPair v p := by
  unfold nameValue?
  constructor
  · intro h
    split at h
    · next hmembers =>
      obtain ⟨_, _, ⟨⟩, hrecord⟩ := recordMembers_eq_some_iff.mp hmembers
      split at h
      · next hname hvalue =>
        cases h
        exact .record hrecord (stringOrEmpty_eq_some_iff.mp hname)
          (stringOrEmpty_eq_some_iff.mp hvalue)
      · cases h
    · cases h
  · rintro ⟨hrecord, hname, hvalue⟩
    rw [recordMembers_eq_some_iff.mpr ⟨_, _, rfl, hrecord⟩]
    simp only [stringOrEmpty_eq_some_iff.mpr hname, stringOrEmpty_eq_some_iff.mpr hvalue]

/-- Exactly the records of what is posted are read. -/
theorem postData?_eq_some_iff (v : Value) (post : PostData) :
    postData? v = some post ↔ IsPost v post := by
  have hpairs := listOf?_eq_some_iff nameValue?_eq_some_iff
  unfold postData?
  constructor
  · intro h
    split at h
    · next hmembers =>
      obtain ⟨_, _, ⟨⟩, hrecord⟩ := recordMembers_eq_some_iff.mp hmembers
      split at h
      · next htext hparams =>
        cases h
        exact .record hrecord ((nullable_eq_some_iff text?_eq_some_iff rfl).mp htext)
          ((nullable_eq_some_iff hpairs rfl).mp hparams)
      · cases h
    · cases h
  · rintro ⟨hrecord, htext, hparams⟩
    rw [recordMembers_eq_some_iff.mpr ⟨_, _, rfl, hrecord⟩]
    simp only [(nullable_eq_some_iff text?_eq_some_iff rfl).mpr htext,
      (nullable_eq_some_iff hpairs rfl).mpr hparams]

/-- Exactly the typed requests are read. -/
theorem captured?_eq_some_iff_typed {request : List (String × Value)} {c : Captured} :
    captured? (.object request) = some c ↔ Typed request c := by
  simp only [captured?, recordMembers, List.map_cons, List.map_nil]
  constructor
  · intro h
    split at h
    · next hmethod hurl hheaders hpost =>
      cases h
      exact ⟨(nullable_eq_some_iff text?_eq_some_iff rfl).mp hmethod,
        (nullable_eq_some_iff text?_eq_some_iff rfl).mp hurl,
        (listOrEmpty_eq_some_iff nameValue?_eq_some_iff).mp hheaders,
        (nullable_eq_some_iff postData?_eq_some_iff rfl).mp hpost⟩
    · cases h
  · intro h
    simp only [(nullable_eq_some_iff text?_eq_some_iff rfl).mpr h.method,
      (nullable_eq_some_iff text?_eq_some_iff rfl).mpr h.url,
      (listOrEmpty_eq_some_iff nameValue?_eq_some_iff).mpr h.headers,
      (nullable_eq_some_iff postData?_eq_some_iff rfl).mpr h.postData]

/-! ## The call of a request -/

/-- The fields that a call gets from what is posted. A text that is an object gives its members;
else parameters, if there are any, give those that have a name; else a text that is not empty gives
the one field `data`. -/
inductive Posts : Option PostData → Fields → Prop
  | nothing : Posts none .empty
  | members {text : String} {params : Option (List (String × String))} {fields : Fields}
      {members : List (String × Value)} (htext : HoldsObject text members)
      (hfields : HoldMembers fields members) : Posts (some { text := some text, params }) fields
  | params {text : Option String} {params : List (String × String)} {fields : Fields}
      (htext : ∀ s, text = some s → ∀ members, ¬ HoldsObject s members) (hne : params ≠ [])
      (hfields : fields.Gathers (params.filter fun p => p.1 ≠ "")) :
      Posts (some { text, params := some params }) fields
  | data {text : String} {params : Option (List (String × String))} {fields : Fields}
      (htext : ∀ members, ¬ HoldsObject text members) (hparams : params.getD [] = [])
      (hne : text ≠ "") (hfields : fields.entries = [("data", text)]) :
      Posts (some { text := some text, params }) fields
  | empty {text : Option String} {params : Option (List (String × String))}
      (htext : text.getD "" = "") (hparams : params.getD [] = []) :
      Posts (some { text, params }) .empty

/-- The call that a request with this URL makes. -/
structure Converted (c : Captured) (url : String) (r : Request) : Prop where
  name : r.name = title url
  url : r.url = url
  method : r.method = (c.method.map Method.ofText).getD .get
  headers : r.headers.Gathers (c.headers.filter fun p => p.1 ≠ "")
  body : Posts c.postData r.body
  group : r.group = none

/-- The pairs that have a name are gathered in order. -/
theorem namedPairs_gathers (pairs : List (String × String)) :
    (namedPairs pairs).Gathers (pairs.filter fun p => p.1 ≠ "") :=
  OrderedMap.gathers_ofList _

/-- The empty text is no object. -/
theorem not_holdsObject_empty (members : List (String × Value)) : ¬ HoldsObject "" members := by
  intro h
  have hlooks := looksLikeObject_of_holdsObject h
  cases hlooks

/-- Parameters that are there are taken unless the text is an object. -/
theorem postFields_of_params {text : Option String}
    (htext : ∀ s, text = some s → ∀ members, ¬ HoldsObject s members)
    {params : List (String × String)} (hne : params ≠ []) :
    postFields { text, params := some params } = namedPairs params := by
  obtain ⟨p, more, rfl⟩ := List.exists_cons_of_ne_nil hne
  cases text with
  | none => rfl
  | some s =>
    rw [postFields]
    simp only [Option.bind_some, objectFields?_eq_none (htext s rfl), ite_self]

/-- Without a text and parameters there are no fields. -/
theorem postFields_of_nothing {text : Option String} (htext : text.getD "" = "")
    {params : Option (List (String × String))} (hparams : params.getD [] = []) :
    postFields { text, params } = .empty := by
  have hno : ∀ s, text = some s → objectFields? s.toList = none := by
    rintro s rfl
    cases htext
    exact objectFields?_eq_none not_holdsObject_empty
  have hmembers : (text.bind fun s =>
      if looksLikeObject s.toList then objectFields? s.toList else none) = none := by
    cases text with
    | none => rfl
    | some s => rw [Option.bind_some, hno s rfl, ite_self]
  rw [postFields]
  simp only [hmembers]
  cases params with
  | none =>
    cases text with
    | none => rfl
    | some s => exact if_pos htext
  | some list =>
    cases hparams
    cases text with
    | none => rfl
    | some s => exact if_pos htext

/-- The body of a call, by what is posted. -/
theorem posts_postFields (post : PostData) : Posts (some post) (postFields post) := by
  obtain ⟨text, params⟩ := post
  -- the text as an object, then the parameters, then the text as it is
  by_cases hobject : ∃ s, text = some s ∧ ∃ members, HoldsObject s members
  · obtain ⟨s, rfl, members, hmembers⟩ := hobject
    obtain ⟨hread, hsame⟩ := fields_of_holdsObject hmembers params
    refine .members hmembers ?_
    rw [hsame, hread]
    exact holdMembers_ofList members
  · have hno : ∀ s, text = some s → ∀ members, ¬ HoldsObject s members :=
      fun s hs members hmembers => hobject ⟨s, hs, members, hmembers⟩
    by_cases hparams : params.getD [] = []
    · by_cases hempty : text.getD "" = ""
      · rw [postFields_of_nothing hempty hparams]
        exact .empty hempty hparams
      · obtain ⟨s, rfl⟩ : ∃ s, text = some s := by
          cases text with
          | none => exact absurd rfl hempty
          | some s => exact ⟨s, rfl⟩
        have hne : s ≠ "" := hempty
        rw [postFields_of_not_object hne hparams (hno s rfl)]
        exact .data (hno s rfl) hparams hne rfl
    · obtain ⟨list, rfl⟩ : ∃ list, params = some list := by
        cases params with
        | none => exact absurd rfl hparams
        | some list => exact ⟨list, rfl⟩
      have hne : list ≠ [] := hparams
      rw [postFields_of_params hno hne]
      exact .params hno hne (namedPairs_gathers list)

/-- A request with a URL makes a call. -/
theorem exists_converted {c : Captured} {url : String} (hurl : c.url = some url) (hne : url ≠ "") :
    ∃ r, ofCaptured c = some r ∧ Converted c url r := by
  have hcall : ofCaptured c = some
      { name := title url, url, method := (c.method.map Method.ofText).getD .get,
        headers := namedPairs c.headers, body := (c.postData.map postFields).getD .empty } := by
    rw [ofCaptured, hurl]
    exact if_neg hne
  refine ⟨_, hcall, rfl, rfl, rfl, namedPairs_gathers c.headers, ?_, rfl⟩
  show Posts c.postData ((c.postData.map postFields).getD .empty)
  cases c.postData with
  | none => exact .nothing
  | some post => exact posts_postFields post

/-- A request without a URL makes none. -/
theorem ofCaptured_eq_none {c : Captured} (h : c.url.getD "" = "") : ofCaptured c = none := by
  unfold ofCaptured
  split
  · rfl
  · next url hurl =>
    rw [hurl] at h
    exact if_pos h

/-! ## Entries -/

/-- An entry that is an object makes the call of its request. -/
theorem ofEntry_object {members request : List (String × Value)}
    (hrequest : Entries.lookup "request" members = some (.object request)) :
    ofEntry (.object members) = (captured? (.object request)).bind ofCaptured := by
  have hfound : requestOf? (.object members) = (captured? (.object request)).map some := by
    rw [requestOf?, hrequest]
    rfl
  rw [ofEntry, hfound]
  cases captured? (.object request) <;> rfl

section Archives

variable {text : String} {before after : List Value} {entry : Value}

/-- The call of an entry stands between those of the entries before and behind it. -/
theorem harArchive_of_some (h : entries text = .ok (before ++ entry :: after)) {r : Request}
    (hr : ofEntry entry = some r) :
    harArchive text = .ok (before.filterMap ofEntry ++ r :: after.filterMap ofEntry) := by
  have hcalls : (before ++ entry :: after).filterMap ofEntry
      = before.filterMap ofEntry ++ r :: after.filterMap ofEntry := by
    rw [List.filterMap_append, List.filterMap_cons_some hr]
  rw [harArchive_of_entries h, ofEntries, hcalls]
  split
  · next hnil => exact absurd hnil (by simp)
  · rfl

/-- An entry that is passed over leaves no trace. -/
theorem harArchive_of_none (h : entries text = .ok (before ++ entry :: after))
    (hnone : ofEntry entry = none) : harArchive text = ofEntries (before ++ after) := by
  rw [harArchive_of_entries h, ofEntries, ofEntries, List.filterMap_append,
    List.filterMap_cons_none hnone, List.filterMap_append]

end Archives

/-- **What an entry becomes.** Take an entry of an archive that is an object with an object
`request`. If the request is well typed, its records given as objects or as lists, and has a URL
that is not empty, the entry makes one call, as `Converted` describes it, in its place among the
calls of the other entries. If the request is well typed but has no URL, or an empty one, or if it
is not well typed, the archive yields what it would yield without the entry. -/
theorem harArchive_entry {text : String} {before after : List Value}
    {members request : List (String × Value)}
    (hentries : entries text = .ok (before ++ .object members :: after))
    (hrequest : Entries.lookup "request" members = some (.object request)) :
    (∀ c url, Typed request c → c.url = some url → url ≠ "" →
      ∃ r, Converted c url r ∧ ofEntry (.object members) = some r ∧
        harArchive text = .ok (before.filterMap ofEntry ++ r :: after.filterMap ofEntry)) ∧
    (∀ c, Typed request c → c.url.getD "" = "" →
      harArchive text = ofEntries (before ++ after)) ∧
    ((∀ c, ¬ Typed request c) → harArchive text = ofEntries (before ++ after)) := by
  have hentry := ofEntry_object hrequest
  refine ⟨?_, ?_, ?_⟩
  · intro c url htyped hurl hne
    obtain ⟨r, hr, hconverted⟩ := exists_converted hurl hne
    rw [captured?_eq_some_iff_typed.mpr htyped, Option.bind_some, hr] at hentry
    exact ⟨r, hconverted, hentry, harArchive_of_some hentries hentry⟩
  · intro c htyped hempty
    rw [captured?_eq_some_iff_typed.mpr htyped, Option.bind_some, ofCaptured_eq_none hempty]
      at hentry
    exact harArchive_of_none hentries hentry
  · intro hnot
    have hnone : captured? (.object request) = none :=
      Option.eq_none_iff_forall_not_mem.mpr fun c hc =>
        hnot c (captured?_eq_some_iff_typed.mp hc)
    rw [hnone, Option.bind_none] at hentry
    exact harArchive_of_none hentries hentry

/-- A repeated header, one without a name, one without a value, and parameters beside a text, behind
an entry whose headers are mistyped. -/
theorem harArchive_entry_beside_mistyped :
    let request : List (String × Value) :=
      [("method", .null), ("url", .string "http://h/ping"), ("cookies", .bool true),
        ("headers", .array
          [.object [("name", .string "A"), ("value", .string "1")],
            .object [("value", .string "x")], .object [("name", .string "a")],
            .object [("name", .string "A"), ("value", .string "3")]]),
        ("postData", .object
          [("text", .string "k=v"),
            ("params", .array [.object [("value", .string "v"), ("name", .string "k")]])])]
    let captured : Captured :=
      { url := some "http://h/ping"
        headers := [("A", "1"), ("", "x"), ("a", ""), ("A", "3")]
        postData := some { text := some "k=v", params := some [("k", "v")] } }
    let mistyped : Value :=
      .object [("request", .object [("url", .string "http://h/"), ("headers", .null)])]
    let list := [mistyped, .object [("request", .object request)]]
    let text := (Value.object [("log", .object [("entries", .array list)])]).compact
    entries text = .ok list ∧ Typed request captured ∧
      ∃ r, Converted captured "http://h/ping" r ∧ harArchive text = .ok [r] := by
  intro request captured mistyped list text
  have hdocument : (Value.object [("log", .object [("entries", .array list)])]).Readable
      Json.maxDepth := by
    refine ⟨⟨?_, by decide⟩, by decide⟩
    simp [list, request, mistyped, Value.WellFormed, Value.WellFormedMembers,
      Value.WellFormedItems]
  have hentries : entries text = .ok ([mistyped] ++ .object [("request", .object request)] :: []) :=
    entries_of_parse (Json.parse_compact hdocument)
  have htext : ∀ s, TextOrEmpty (some (.string s)) s := fun s => .given (.text s)
  have hpair : ∀ {members : List (String × Value)} {name value : String},
      TextOrEmpty (Entries.lookup "name" members) name →
      TextOrEmpty (Entries.lookup "value" members) value →
      IsPair (.object members) (name, value) :=
    fun hname hvalue => .record (.object _) hname hvalue
  have htyped : Typed request captured :=
    { method := .null
      url := .given (.text _)
      headers := .given (.items (.cons (hpair (htext "A") (htext "1"))
        (.cons (hpair .absent (htext "x")) (.cons (hpair (htext "a") .absent)
          (.cons (hpair (htext "A") (htext "3")) .nil)))))
      postData := .given (.record (.object _) (.given (.text _))
        (.given (.items (.cons (hpair (htext "k") (htext "v")) .nil)))) }
  obtain ⟨r, hconverted, -, hcalls⟩ :=
    (harArchive_entry hentries rfl).1 captured "http://h/ping" htyped rfl (by decide)
  exact ⟨hentries, htyped, r, hconverted, hcalls⟩

/-- A header that is given as a list, not as an object, makes a header of a call all the same. -/
theorem harArchive_entry_of_listed_header :
    let request : List (String × Value) :=
      [("url", .string "http://h/"), ("headers", .array [.array [.string "A", .string "1"]])]
    let entry : Value := .object [("request", .object request)]
    let text := (Value.object [("log", .object [("entries", .array [entry])])]).compact
    entries text = .ok [entry] ∧ ¬ Named request ∧
      harArchive text = .ok
        [{ name := title "http://h/", url := "http://h/", method := .get
           headers := .ofList [("A", "1")] }] := by
  intro request entry text
  have hdocument : (Value.object [("log", .object [("entries", .array [entry])])]).Readable
      Json.maxDepth := by
    refine ⟨⟨?_, by decide⟩, by decide⟩
    simp [entry, request, Value.WellFormed, Value.WellFormedMembers, Value.WellFormedItems]
  have hentries : entries text = .ok [entry] := entries_of_parse (Json.parse_compact hdocument)
  refine ⟨hentries, fun hnamed => ?_, ?_⟩
  · obtain ⟨members, hmembers⟩ := hnamed.headers _ rfl _ List.mem_cons_self
    cases hmembers
  · rw [harArchive_of_entries hentries]
    rfl

end CallBook.Import
