import CallBook.Http.Exchange
import CallBook.Proofs.Execution.Engine
import CallBook.Proofs.Grouping
import CallBook.Proofs.Http.HeaderMap
import Mathlib

/-!
# Response headers are grouped without loss

A response may have several fields of one name, in any spelling and with others between them. They
are put into a map of lists one after the other, which collects the values of each name under its
name in lower case (`entries_grouped`). `Groups` says what such a map holds without mention of the
steps. A client that sorts the fields by name before it hands them out changes nothing
(`grouped_byName`).

A client hands on the fields of a reply, but for those that say that the body is packed, if it
unpacks it (`get?_grouped_unpacked`). The map of what it hands on is that of the response to an
exchange (`exists_response_of_readReply`), and the engine puts the headers of any response into the
result as they are (`result_headers`).

Main result: `grouped_without_loss`.
-/

namespace CallBook.Http

open Text (lowerAscii sameIgnoringCase)

/-! ## Statement -/

/-- The name of a field as it is compared and grouped. -/
def Field.key (f : Field) : String := lowerAscii f.name

/-- The map holds the values of the fields and nothing else. -/
structure Groups (m : MultiMap) (fs : List Field) : Prop where
  /-- The names in lower case, in the order of their first fields. -/
  names : m.keys = (fs.map fun f => lowerAscii f.name).eraseDups
  once : m.keys.Nodup
  /-- A name has the values of its fields, whatever their spelling, in order. -/
  values : ∀ f ∈ fs, m.get? (lowerAscii f.name)
    = some ((fs.filter fun g => sameIgnoringCase g.name f.name).map Field.text)
  total : (m.values.map List.length).sum = fs.length

/-- Fields as a client hands them out: name by name in the order of the first fields, those of one
name in order. -/
def byName (fs : List Field) : List Field :=
  (fs.map Field.key).eraseDups.flatMap fun name => fs.filter fun f => f.key = name

/-! ## The map -/

theorem grouped_eq (fs : List Field) :
    grouped fs = OrderedMap.pushAll Field.key Field.text .empty fs := rfl

/-- The grouped fields are the groups of their names, in the order in which these come first. -/
theorem entries_grouped (fs : List Field) :
    (grouped fs).entries = Entries.collected Field.key Field.text fs :=
  OrderedMap.entries_pushAll Field.key Field.text fs

/-- Bringing the fields of a name together first changes nothing. -/
theorem grouped_byName (fs : List Field) : grouped (byName fs) = grouped fs := by
  rw [grouped_eq, grouped_eq]
  exact OrderedMap.pushAll_flatMap_group Field.key Field.text fs

theorem group_key_eq (f : Field) (fs : List Field) :
    Entries.group Field.key f.key fs = fs.filter fun g => sameIgnoringCase g.name f.name := by
  refine List.filter_congr fun g _ => ?_
  rw [sameIgnoringCase, Field.key, Field.key]
  exact (beq_eq_decide _ _).symm

/-- The grouped fields have each name once, with its values in order. -/
theorem groups_grouped (fs : List Field) : Groups (grouped fs) fs where
  names := by
    rw [OrderedMap.keys, entries_grouped, Entries.keys_collected]
    rfl
  once := (grouped fs).nodup
  values := by
    intro f hf
    have hmem : f.key ∈ fs.map Field.key := List.mem_map_of_mem hf
    rw [OrderedMap.get?, entries_grouped]
    exact (Entries.lookup_collected_of_mem hmem).trans (by rw [group_key_eq])
  total := by
    rw [OrderedMap.values, entries_grouped, List.map_map]
    exact Entries.sum_length_collected fs

/-! ## What a client hands on -/

/-- What holds of a map that fields were put into: its names are in lower case, and each has
values. -/
def Kept (m : HeaderMap) : Prop := ∀ p ∈ m.entries, lowerAscii p.1 = p.1 ∧ p.2 ≠ []

/-- A text in lower case is its own lower case. -/
theorem lowerAscii_lowerAscii (s : String) : lowerAscii (lowerAscii s) = lowerAscii s := by
  simp [lowerAscii, Function.comp_def]

/-- A header map has the values of each name, in the order in which the names come first. -/
theorem entries_ofFields (fs : List Field) :
    (HeaderMap.ofFields fs).entries = Entries.collected Field.key Field.value fs :=
  OrderedMap.entries_pushAll Field.key Field.value fs

/-- A header map keeps its names in lower case, each with a value. -/
theorem kept_ofFields (fs : List Field) : Kept (.ofFields fs) := by
  intro p hp
  rw [entries_ofFields] at hp
  obtain ⟨name, hname, rfl⟩ := List.mem_map.mp hp
  rw [List.mem_eraseDups] at hname
  refine ⟨?_, fun hnone => Entries.group_eq_nil_iff.mp (List.map_eq_nil_iff.mp hnone) hname⟩
  obtain ⟨f, -, rfl⟩ := List.mem_map.mp hname
  exact lowerAscii_lowerAscii f.name

/-- A header map from which a name is removed keeps the others in lower case. -/
theorem Kept.swapErase {m : HeaderMap} (h : Kept m) (key : String) : Kept (m.swapErase key) := by
  intro p hp
  have hmem : p ∈ Entries.erase key m.entries :=
    (Entries.swapErase_perm key m.entries).mem_iff.mp hp
  rw [Entries.erase_eq_filter m.nodup] at hmem
  exact h p (List.mem_filter.mp hmem).1

/-- The text of a value. -/
def valueText (value : List UInt8) : String := String.ofList (Text.Utf8.decodeLossy value)

/-- The fields of a map that is kept by name come to that map, with texts for values. -/
theorem grouped_fields {m : HeaderMap} (h : Kept m) :
    grouped m.fields = m.map fun values => values.map valueText := by
  have hgroups : ∀ p ∈ m.entries.map (fun p => (p.1, p.2.map (Field.mk p.1))),
      p.2 ≠ [] ∧ ∀ f ∈ p.2, f.key = p.1 := by
    intro p hp
    obtain ⟨q, hq, rfl⟩ := List.mem_map.mp hp
    refine ⟨mt List.map_eq_nil_iff.mp (h q hq).2, ?_⟩
    intro f hf
    obtain ⟨value, -, rfl⟩ := List.mem_map.mp hf
    exact (h q hq).1
  have hkeys : Entries.keys (m.entries.map fun p => (p.1, p.2.map (Field.mk p.1))) = m.keys := by
    simp [Entries.keys, OrderedMap.keys, Function.comp_def]
  have hn : (Entries.keys (OrderedMap.empty : MultiMap).entries
      ++ Entries.keys (m.entries.map fun p => (p.1, p.2.map (Field.mk p.1)))).Nodup := by
    rw [hkeys]
    exact m.nodup
  have hall := @OrderedMap.entries_pushAll_flatMap _ _ Field.key Field.text _ hgroups .empty hn
  rw [List.flatMap_map, List.map_map] at hall
  refine OrderedMap.ext (hall.trans (List.map_congr_left fun p _ => ?_))
  rw [Function.comp_apply, List.map_map]
  rfl

/-- Keeping the fields by name first changes nothing. -/
theorem grouped_ofFields (fs : List Field) :
    grouped (HeaderMap.ofFields fs).fields = grouped fs := by
  refine OrderedMap.ext ?_
  rw [grouped_fields (kept_ofFields fs), entries_grouped]
  show (HeaderMap.ofFields fs).entries.map (fun p => (p.1, p.2.map valueText)) = _
  rw [entries_ofFields, Entries.collected, List.map_map]
  refine List.map_congr_left fun name _ => ?_
  rw [Function.comp_apply, List.map_map]
  rfl

/-- All fields are handed on of a body that is not packed. -/
theorem grouped_unpacked_of_none {fs : List Field} (h : packing? (.ofFields fs) = none)
    (unpack : Unpacker) (bytes : List UInt8) :
    grouped (unpacked unpack (.ofFields fs) bytes).1.fields = grouped fs := by
  rw [unpacked, h]
  exact grouped_ofFields fs

/-- The fields that are handed on, name by name: those of a body that is unpacked do not say how it
was packed, nor how long it was then. -/
theorem get?_grouped_unpacked (unpack : Unpacker) (fs : List Field) (bytes : List UInt8)
    (name : String) :
    (grouped (unpacked unpack (.ofFields fs) bytes).1.fields).get? name
      = if (packing? (.ofFields fs)).isSome ∧ (name = "content-encoding" ∨ name = "content-length")
        then none else (grouped fs).get? name := by
  cases hpacking : packing? (.ofFields fs) with
  | none => rw [grouped_unpacked_of_none hpacking, if_neg (by simp)]
  | some packing =>
    have hkept := kept_ofFields fs
    rw [unpacked, hpacking]
    dsimp only
    rw [grouped_fields ((hkept.swapErase _).swapErase _), ← grouped_ofFields,
      grouped_fields hkept, OrderedMap.get?_map, OrderedMap.get?_map, OrderedMap.get?_swapErase,
      OrderedMap.get?_swapErase]
    by_cases hlength : "content-length" = name
    · rw [if_pos hlength, if_pos ⟨rfl, Or.inr hlength.symm⟩]
      rfl
    · by_cases hencoding : "content-encoding" = name
      · rw [if_neg hlength, if_pos hencoding, if_pos ⟨rfl, Or.inl hencoding.symm⟩]
        rfl
      · rw [if_neg hlength, if_neg hencoding, if_neg]
        rintro ⟨-, rfl | rfl⟩
        · exact hencoding rfl
        · exact hlength rfl

/-! ## The way into the result -/

/-- A call that was written, and whose reply has a head and a body that can be unpacked, is answered
with the fields that are handed on of that head. -/
theorem exists_response_of_readReply {o : Outbound} {w : Wire} {reply bytes plain : List UInt8}
    {h : Head} {unpack : Unpacker} (hw : wire o = .ok w)
    (hreply : readReply o.method reply = .ok (h, .ok bytes))
    (hplain : (unpacked unpack (.ofFields h.fields) bytes).2 = .ok plain) :
    ∃ r, (exchange o reply unpack).answer = .ok r ∧
      r.headers = grouped (unpacked unpack (.ofFields h.fields) bytes).1.fields := by
  unfold exchange response
  rw [hw]
  simp only [hreply]
  obtain ⟨m, hm⟩ : ∃ m, unpacked unpack (.ofFields h.fields) bytes = (m, .ok plain) :=
    ⟨_, Prod.ext rfl hplain⟩
  simp only [hm]
  exact ⟨_, rfl, rfl⟩

/-- The engine hands on the headers of a response, whatever transport it came from. -/
theorem result_headers {a : Attempt} {url : Url} {send : Transport} {r : Response}
    (hurl : a.Reaches url) (hs : a.select url = .ok send)
    (hr : send (a.resolved.outbound url) = .ok r) :
    a.run.result.headers = r.headers ∧ a.run.result.error = none := by
  obtain ⟨-, -, hanswers⟩ := a.accounted_run.sent url send hurl hs
  exact ⟨(hanswers r hr).headers, (hanswers r hr).error⟩

/-- **Response headers are grouped without loss.** Whatever fields arrive, their map has each name
once, in lower case and in the order of the first fields, and under it the values of all fields of
that name in their order, so that there are as many values as fields; that the fields are handed out
name by name makes no difference. A call that was written, and whose reply has a body that can be
unpacked if it is packed, is answered with the map of the fields that the client hands on. These are
all fields of the reply, but for what it says of a body that was unpacked. And the engine puts the
map of any response into the result as it is. -/
theorem grouped_without_loss (fs : List Field) :
    Groups (grouped fs) fs ∧ grouped (byName fs) = grouped fs ∧
    (∀ (unpack : Unpacker) (o : Outbound) (w : Wire) (reply bytes plain : List UInt8) (h : Head),
      wire o = .ok w → readReply o.method reply = .ok (h, .ok bytes) →
      let handedOn := unpacked unpack (.ofFields h.fields) bytes
      handedOn.2 = .ok plain → ∃ r, (exchange o reply unpack).answer = .ok r ∧
        (handedOn.1.fields = fs → r.headers = grouped fs) ∧
        (h.fields = fs → packing? (.ofFields fs) = none → r.headers = grouped fs) ∧
        (h.fields = fs → ∀ name, r.headers.get? name
          = if (packing? (.ofFields fs)).isSome ∧
                (name = "content-encoding" ∨ name = "content-length")
              then none else (grouped fs).get? name)) ∧
    ∀ (a : Attempt) (url : Url) (send : Transport) (r : Response), a.Reaches url →
      a.select url = .ok send → send (a.resolved.outbound url) = .ok r →
      r.headers = grouped fs →
      a.run.result.headers = grouped fs ∧ a.run.result.error = none := by
  refine ⟨groups_grouped fs, grouped_byName fs, ?_, ?_⟩
  · -- what is grouped is what the client hands on, which is the reply unless it was packed
    intro unpack o w reply bytes plain h hw hreply handedOn hplain
    obtain ⟨r, hr, hheaders⟩ := exists_response_of_readReply hw hreply hplain
    refine ⟨r, hr, ?_, ?_, ?_⟩
    · rintro rfl
      exact hheaders
    · rintro rfl hnone
      rw [hheaders, grouped_unpacked_of_none hnone]
    · rintro rfl name
      rw [hheaders]
      exact get?_grouped_unpacked unpack h.fields bytes name
  · intro a url send r hurl hs hr hheaders
    rw [← hheaders]
    exact result_headers hurl hs hr

/-- Two cookies with a date between them, in two spellings, all the way from the bytes of a reply
into the result. -/
theorem grouped_without_loss_interleaved :
    let host : Authority := { host := .ipv6 [0, 0, 0, 0, 0, 0, 0, 1] }
    let url : Url := { scheme := "http", authority := some host, path := .rooted [""] }
    let reply := ("HTTP/1.1 200 OK\r\nSet-Cookie: a=1\r\nDate: d\r\nset-cookie: b=2\r\n"
      ++ "Content-Length: 0\r\n\r\n").toUTF8.toList
    let send : Transport := fun o => (exchange o reply).answer
    let a : Attempt := ⟨{ url := "http://[::1]/" }, {}, fun _ => .ok send, 5⟩
    let map : MultiMap :=
      .ofList [("set-cookie", ["a=1", "b=2"]), ("date", ["d"]), ("content-length", ["0"])]
    a.Reaches url ∧ a.run.result.headers = map ∧ a.run.result.error = none := by
  intro host url reply send a map
  let written (name value : String) : Field := ⟨name, value.toUTF8.toList⟩
  let w : Wire := ⟨"GET / HTTP/1.1",
    [written "accept" "*/*", written "accept-encoding" "gzip,br", written "host" "[::1]"], [],
    false⟩
  let fs : List Field :=
    [written "set-cookie" "a=1", written "date" "d", written "set-cookie" "b=2",
      written "content-length" "0"]
  let h : Head := ⟨false, 200, fs⟩
  have hurl : a.Reaches url := by
    unfold Attempt.Reaches Attempt.LeavesPlaceholder
    rw [← Template.names_eq_nil_iff]
    decide +kernel
  have hw : wire (a.resolved.outbound url) = .ok w := by decide +kernel
  have hreply : readReply (a.resolved.outbound url).method reply = .ok (h, .ok []) := by
    decide +kernel
  have hmap : grouped fs = map := by decide +kernel
  have hnone : packing? (.ofFields fs) = none := by decide +kernel
  have hplain : (unpacked noUnpacker (.ofFields fs) []).2 = .ok [] := by
    rw [unpacked, hnone]
  obtain ⟨-, -, hanswer, hresult⟩ := grouped_without_loss fs
  obtain ⟨r, hr, -, hheaders, -⟩ := hanswer noUnpacker _ w reply [] [] h hw hreply hplain
  rw [← hmap]
  exact ⟨hurl, hresult a url _ r hurl rfl hr (hheaders rfl hnone)⟩

end CallBook.Http
