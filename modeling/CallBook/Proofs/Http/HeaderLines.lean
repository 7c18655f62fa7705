import CallBook.Http.Exchange
import CallBook.Proofs.Answers
import CallBook.Proofs.Execution.Agreement
import CallBook.Proofs.Execution.Outbound
import CallBook.Proofs.Http.FieldLines
import CallBook.Proofs.Http.Framing
import CallBook.Proofs.OrderedMap
import CallBook.Proofs.Text.Utf8
import CallBook.Proofs.Url.WebHost
import Mathlib.Data.Bool.AllAny

/-!
# One line for each header

A header is a name and a value from the user, and placeholders in them may have been filled in with
anything. Written as they are, a line end in one of them would begin a header of its own, and an
empty line a request of its own. It does not come to that: headers are attached one after another,
and one whose name is no token or whose value holds a control spoils the request for good
(`attachAll_of_broken`). What holds while nothing went wrong is that the values of each name are
those of its headers so far, and that their fields are clean (`Attached`). The fields that every
request has are only put where there are none of their name (`Equipped`), and what says where the
body ends is completed or replaced (`Framed`).

The fields that a request has of itself are clean too, which takes that no control gets into a host
(`Url.visible_host_of_parse`). The lines of clean fields can be told apart: read back one by one
(`fieldLine_line`, `fieldLines_lines`), they are the fields that they were written for, and nothing
is left of them in front of the empty line.

Main result: `one_line_per_header`. Nothing else holds a call back: one for a web address goes out
if its headers are sound (`sent_of_sound`).
-/

namespace CallBook.Http

open Text (lowerAscii)
open Text.Utf8 (encode encode_ascii)

/-! ## Statement -/

/-- The fields that every request has. -/
def ownFields : List String := ["accept", "accept-encoding", "host"]

/-- The values of a name among headers, in order. -/
def headerValues (hs : List (String × String)) (name : String) : List (List UInt8) :=
  (hs.filter fun h => lowerAscii h.1 == name).map fun h => encode h.2.toList

/-- The bytes of the body of a call. -/
def bodyBytesOf (o : Outbound) : List UInt8 := encode (o.body.getD "").toList

/-- The fields that go out for headers. -/
structure Written (hs : List (String × String)) (fs : List Field) : Prop where
  /-- A name that does not say where the body ends has the values of its headers, in order. Without
  headers it has at most one value, and that only if every request has it. -/
  values : ∀ name, name ≠ "transfer-encoding" → name ≠ "content-length" →
    valuesOf name fs = headerValues hs name ∨
      headerValues hs name = [] ∧ name ∈ ownFields ∧ (valuesOf name fs).length = 1
  encodings : (valuesOf "transfer-encoding" fs).length
    ≤ (headerValues hs "transfer-encoding").length
  lengths : (valuesOf "content-length" fs).length
    ≤ max 1 (headerValues hs "content-length").length

/-! ## Attaching headers one after another -/

/-- What holds when every header seen so far was attached: no header was broken, and each name has
the values of its headers. -/
structure Attached (seen : List (String × String)) (m : HeaderMap) : Prop where
  sound : ∀ h ∈ seen, ¬ Broken h
  values : ∀ name, m.valuesOf name = headerValues seen name
  nonempty : ∀ name, m.get? name ≠ some []
  clean : m.All fun name value => Field.Clean ⟨name, value⟩
  length : m.fields.length = seen.length
  size : m.size ≤ seen.length

theorem attached_nil : Attached [] .empty where
  sound := List.forall_mem_nil _
  values _ := rfl
  nonempty _ := (Option.some_ne_none _).symm
  clean _ := List.forall_mem_nil _
  length := rfl
  size := Nat.le_refl _

theorem headerValues_append (hs hs' : List (String × String)) (name : String) :
    headerValues (hs ++ hs') name = headerValues hs name ++ headerValues hs' name := by
  rw [headerValues, List.filter_append, List.map_append]
  rfl

/-- The values of a name, with one more if the header is of that name. -/
theorem headerValues_concat (hs : List (String × String)) (h : String × String) (name : String) :
    headerValues (hs ++ [h]) name
      = headerValues hs name ++ if lowerAscii h.1 = name then [encode h.2.toList] else [] := by
  rw [headerValues_append]
  by_cases hname : lowerAscii h.1 = name
  · simp [headerValues, hname]
  · simp [headerValues, hname]

/-- A header that is attached adds its field. -/
theorem attach_ok {m m' : HeaderMap} {h : String × String} (hok : attach m h = .ok m') :
    ∃ f, field h.1 h.2 = .ok f ∧ m' = m.push f.name f.value := by
  unfold attach at hok
  split at hok
  next => cases hok
  next f hf =>
    split at hok
    next => cases hok
    next =>
      cases hok
      exact ⟨f, hf, rfl⟩

/-- A header is not attached if it is no field, or if there is no room for another name. -/
theorem error_of_attach {m : HeaderMap} {h : String × String} {e : WireError}
    (herror : attach m h = .error e) :
    (∃ reason, field h.1 h.2 = .error reason ∧ e = .field reason) ∨
      e = .crowded ∧ mostNames ≤ m.size := by
  unfold attach at herror
  split at herror
  next reason hf =>
    cases herror
    exact Or.inl ⟨reason, hf, rfl⟩
  next =>
    split at herror
    next hfull =>
      cases herror
      exact Or.inr ⟨rfl, of_decide_eq_true hfull⟩
    next => cases herror

/-- One header more. -/
theorem attached_attach {seen : List (String × String)} {m m' : HeaderMap}
    (hm : Attached seen m) {h : String × String} (hok : attach m h = .ok m') :
    Attached (seen ++ [h]) m' := by
  obtain ⟨f, hf, rfl⟩ := attach_ok hok
  obtain ⟨hsound, rfl, hclean⟩ := field_ok hf
  -- the field is pushed, so each part of the invariant is what a push does to it
  refine ⟨?_, ?_, HeaderMap.get?_push_ne hm.nonempty _ _, hm.clean.push hclean, ?_, ?_⟩
  · exact List.forall_mem_append.mpr ⟨hm.sound, List.forall_mem_singleton.mpr hsound⟩
  · intro name
    rw [HeaderMap.valuesOf_push, hm.values, headerValues_concat]
  · rw [HeaderMap.length_fields_push, hm.length, List.length_append, List.length_singleton]
  · rw [List.length_append, List.length_singleton]
    exact Nat.le_trans (HeaderMap.size_push_le m _ _) (Nat.succ_le_succ hm.size)

/-- Every header that was attached left its value under its name: the induction is on the headers
that are still to come. -/
theorem attached_attachAll {seen hs : List (String × String)} {m m' : HeaderMap}
    (hm : Attached seen m) (hok : attachAll m hs = .ok m') : Attached (seen ++ hs) m' := by
  induction hs generalizing seen m with
  | nil =>
    cases hok
    rwa [List.append_nil]
  | cons h hs ih =>
    obtain ⟨next, hnext, hok⟩ := exists_of_bind_ok hok
    have hstep := ih (attached_attach hm hnext) hok
    rwa [List.append_assoc] at hstep

/-- Headers that are all attached, one after another from nothing, are `Attached`. -/
theorem attached_of_attachAll {hs : List (String × String)} {m : HeaderMap}
    (h : attachAll .empty hs = .ok m) : Attached hs m := attached_attachAll attached_nil h

/-- Headers are refused where one is no field, or where there are too many. -/
theorem error_of_attachAll {hs : List (String × String)} {m : HeaderMap} {e : WireError}
    (h : attachAll m hs = .error e) :
    (∃ header ∈ hs, ∃ reason, field header.1 header.2 = .error reason ∧ e = .field reason) ∨
      e = .crowded ∧ mostNames < m.size + hs.length := by
  induction hs generalizing m with
  | nil => cases h
  | cons header hs ih =>
    rw [List.length_cons]
    rcases cases_of_bind_error h with hhere | ⟨next, hnext, hlater⟩
    · rcases error_of_attach hhere with hreason | ⟨he, hfull⟩
      · exact Or.inl ⟨header, List.mem_cons_self, hreason⟩
      · exact Or.inr ⟨he, by omega⟩
    · -- a header that was attached takes one name at most
      obtain ⟨f, -, rfl⟩ := attach_ok hnext
      have hgrown := HeaderMap.size_push_le m f.name f.value
      rcases ih hlater with ⟨bad, hbad, hreason⟩ | ⟨he, hmany⟩
      · exact Or.inl ⟨bad, List.mem_cons_of_mem _ hbad, hreason⟩
      · exact Or.inr ⟨he, by omega⟩

/-- What went wrong with one header cannot be made good by others. -/
theorem attachAll_of_broken {hs : List (String × String)} (h : ∃ header ∈ hs, Broken header) :
    ∃ e, attachAll .empty hs = .error e := by
  obtain ⟨header, hmem, hbroken⟩ := h
  cases hall : attachAll .empty hs with
  | error e => exact ⟨e, rfl⟩
  | ok m => exact absurd hbroken ((attached_of_attachAll hall).sound header hmem)

/-- Where every header has a field and there is room for all, nothing goes wrong. -/
theorem exists_attachAll {hs : List (String × String)}
    (h : ∀ header ∈ hs, ∃ f, field header.1 header.2 = .ok f) (hroom : hs.length ≤ mostNames) :
    ∃ m, attachAll .empty hs = .ok m := by
  cases hall : attachAll .empty hs with
  | ok m => exact ⟨m, rfl⟩
  | error e =>
    rcases error_of_attachAll hall with ⟨header, hmem, reason, hreason, -⟩ | ⟨-, hmany⟩
    · obtain ⟨f, hf⟩ := h header hmem
      rw [hf] at hreason
      cases hreason
    · have hnone : OrderedMap.size (.empty : HeaderMap) = 0 := rfl
      omega

/-! ## The fields of a request -/

/-! ### Names and values -/

/-- The names of the fields that a request has of itself. -/
theorem token_of_ownField {name : String} (h : name ∈ "content-length" :: ownFields) :
    name.toList ≠ [] ∧ ∀ c ∈ name.toList, isTokenChar c = true ∧ c.toLower = c := by
  have hall : ∀ name ∈ "content-length" :: ownFields, name.toList ≠ [] ∧
      (name.toList.all fun c => isTokenChar c = true ∧ c.toLower = c) = true := by decide
  exact ⟨(hall name h).1, List.all_iff_forall_prop.mp (hall name h).2⟩

/-- A field that a request has of itself is clean if its value is visible. -/
theorem clean_of_visible {name : String} {value : List Char}
    (hname : name ∈ "content-length" :: ownFields) (hvalue : ∀ c ∈ value, Url.Visible c) :
    Field.Clean ⟨name, encode value⟩ := by
  obtain ⟨hne, htoken⟩ := token_of_ownField hname
  exact ⟨hne, htoken, isFieldByte_of_visible hvalue⟩

/-- Encodings that are completed stay clean. -/
theorem clean_chunked (last : List UInt8)
    (h : last = [] ∨ Field.Clean ⟨"transfer-encoding", last⟩) :
    Field.Clean ⟨"transfer-encoding", last ++ encode ", chunked".toList⟩ := by
  have hname : ∀ c ∈ "transfer-encoding".toList, isTokenChar c = true ∧ c.toLower = c :=
    List.all_iff_forall_prop.mp (by decide)
  have hchunked : ∀ b ∈ encode ", chunked".toList, isFieldByte b = true :=
    isFieldByte_of_printable (List.all_iff_forall_prop.mp (by decide))
  have hlast : ∀ b ∈ last, isFieldByte b = true := by
    rcases h with rfl | h
    · exact List.forall_mem_nil _
    · exact h.value
  have hne : "transfer-encoding".toList ≠ [] := by decide
  exact ⟨hne, hname, List.forall_mem_append.mpr ⟨hlast, hchunked⟩⟩

/-! ### The caller -/

theorem visible_base64Digit {n : Nat} (h : n < 64) : Url.Visible (base64Digit n) := by
  have hall : ∀ n < 64, Url.Visible (base64Digit n) := by decide
  exact hall n h

/-- Credentials are written with visible characters only. -/
theorem visible_base64 (bytes : List UInt8) : ∀ c ∈ base64 bytes, Url.Visible c := by
  have hpad : Url.Visible '=' := by decide
  fun_induction base64 bytes with
  | case1 => exact fun c hc => nomatch hc
  | case2 a n =>
    have ha := a.toNat_lt
    simp only [List.forall_mem_cons]
    exact ⟨visible_base64Digit (by omega), visible_base64Digit (by omega), hpad, hpad, by simp⟩
  | case3 a b n =>
    have ha := a.toNat_lt
    have hb := b.toNat_lt
    simp only [List.forall_mem_cons]
    exact ⟨visible_base64Digit (by omega), visible_base64Digit (by omega),
      visible_base64Digit (by omega), hpad, by simp⟩
  | case4 a b c rest n ih =>
    have ha := a.toNat_lt
    have hb := b.toNat_lt
    have hc := c.toNat_lt
    simp only [List.forall_mem_cons]
    exact ⟨visible_base64Digit (by omega), visible_base64Digit (by omega),
      visible_base64Digit (by omega), visible_base64Digit (by omega), ih⟩

/-- What a URL says of the caller is a header like any other. -/
theorem exists_field_of_credentials {u : Url} {value : String}
    (h : (splitCredentials u).2 = some value) : ∃ f, field "authorization" value = .ok f := by
  obtain ⟨bytes, rfl⟩ : ∃ bytes, value = "Basic " ++ String.ofList (base64 bytes) := by
    unfold splitCredentials at h
    split at h
    next => cases h
    next =>
      split at h
      next => cases h
      next =>
        cases h
        exact ⟨_, rfl⟩
  have hscheme : ∀ c ∈ "Basic ".toList, 32 ≤ c.toNat ∧ c.toNat < 127 :=
    List.all_iff_forall_prop.mp (by decide)
  refine exists_field_of_valid (by decide) (List.all_eq_true.mpr (isFieldByte_of_printable ?_))
  rw [String.toList_append, List.forall_mem_append]
  refine ⟨hscheme, fun c hc => ?_⟩
  rw [String.toList_ofList] at hc
  obtain ⟨hlow, hhigh⟩ := visible_base64 bytes c hc
  exact ⟨Nat.le_of_lt hlow, hhigh⟩

/-! ### What every request has -/

/-- What holds of a request for which headers were attached, with some of the fields that every
request has. -/
structure Equipped (hs : List (String × String)) (m : HeaderMap) : Prop where
  values : ∀ name, m.valuesOf name = headerValues hs name ∨
    headerValues hs name = [] ∧ name ∈ ownFields ∧ (m.valuesOf name).length = 1
  nonempty : ∀ name, m.get? name ≠ some []
  clean : m.All fun name value => Field.Clean ⟨name, value⟩

theorem Attached.equipped {hs : List (String × String)} {m : HeaderMap} (h : Attached hs m) :
    Equipped hs m where
  values name := Or.inl (h.values name)
  nonempty := h.nonempty
  clean := h.clean

/-- One field more, unless the request has one of its name. -/
theorem withDefault_ok {m m' : HeaderMap} {name value : String}
    (h : withDefault m name value = .ok m') :
    m' = m ∨ m.valuesOf name = [] ∧ m' = m.push name (encode value.toList) := by
  unfold withDefault at h
  split at h
  next => cases h
  next =>
    cases h
    cases hname : m.contains name with
    | true => exact Or.inl rfl
    | false => exact Or.inr ⟨HeaderMap.valuesOf_of_contains_eq_false hname, rfl⟩

/-- A field that every request has keeps the rest as it was, and is one field more at most. -/
theorem equipped_withDefault {hs : List (String × String)} {m m' : HeaderMap} (hm : Equipped hs m)
    {name value : String} (hown : name ∈ ownFields)
    (hvalue : ∀ c ∈ value.toList, Url.Visible c) (h : withDefault m name value = .ok m') :
    Equipped hs m' ∧ m'.fields.length ≤ m.fields.length + 1 ∧ m'.size ≤ m.size + 1 := by
  rcases withDefault_ok h with rfl | ⟨hnone, rfl⟩
  · exact ⟨hm, Nat.le_succ _, Nat.le_succ _⟩
  · refine ⟨⟨?_, HeaderMap.get?_push_ne hm.nonempty _ _,
      hm.clean.push (clean_of_visible (List.mem_cons_of_mem _ hown) hvalue)⟩,
      Nat.le_of_eq (HeaderMap.length_fields_push m _ _), HeaderMap.size_push_le m _ _⟩
    intro other
    rw [HeaderMap.valuesOf_push]
    by_cases hother : name = other
    · subst hother
      -- nothing was given under this name, or it would be there
      have hgiven : headerValues hs name = [] := by
        rcases hm.values name with hsame | ⟨hempty, -⟩
        · exact hsame.symm.trans hnone
        · exact hempty
      exact Or.inr ⟨hgiven, hown, by rw [hnone, if_pos rfl]; rfl⟩
    · rw [if_neg hother, List.append_nil]
      exact hm.values other

/-! ### The host -/

theorem scheme_addressOf (o : Outbound) : (addressOf o).scheme = o.url.scheme := by
  unfold addressOf splitCredentials
  split
  next => rfl
  next => split <;> rfl

theorem hostValue_addressOf (o : Outbound) : hostValue (addressOf o) = hostValue o.url := by
  unfold addressOf splitCredentials
  split
  next => rfl
  next a ha =>
    split
    next => rfl
    next => simp only [hostValue, ha, Authority.portText]

/-- No control gets into the host field of a web address that was read. -/
theorem visible_hostValue {text : String} {u : Url} (h : Url.parse text = .ok u)
    (hweb : u.scheme = "http" ∨ u.scheme = "https") :
    ∀ c ∈ (hostValue u).toList, Url.Visible c := by
  obtain ⟨a, ha, hhost⟩ := Url.visible_host_of_parse h hweb
  intro c hc
  simp only [hostValue, ha, String.toList_append, List.mem_append] at hc
  rcases hc with hname | hport
  · exact hhost c hname
  · exact Url.visible_portText a c hport

/-! ## The request -/

/-- A request that can be written: its headers were attached, what every request has was added, and
its body was delimited. -/
theorem wire_ok {o : Outbound} {w : Wire} (h : wire o = .ok w) :
    ∃ attached equipped f, attachAll .empty (given o) = .ok attached ∧
      ((addressOf o).scheme = "http" ∨ (addressOf o).scheme = "https") ∧
      withDefaults attached (addressOf o) = .ok equipped ∧
      framed equipped (bodyBytesOf o) = some f ∧
      w.fields = f.headers.fields ∧ w.content = f.content ∧ w.inChunks = f.inChunks := by
  obtain ⟨attached, hattached, h⟩ := exists_of_bind_ok h
  split at h
  next => cases h
  next hscheme =>
    obtain ⟨equipped, hequipped, h⟩ := exists_of_bind_ok h
    split at h
    next => cases h
    next f hframed =>
      cases h
      refine ⟨attached, equipped, f, hattached, ?_, hequipped, hframed, rfl, rfl, rfl⟩
      simpa [Decidable.or_iff_not_imp_left] using hscheme

theorem wire_of_error {o : Outbound} {e : WireError}
    (h : attachAll .empty (given o) = .error e) : wire o = .error e := by
  unfold wire
  dsimp only
  rw [h]
  rfl

/-- The three fields that every request has. -/
theorem equipped_withDefaults {hs : List (String × String)} {m m' : HeaderMap} {u : Url}
    (hm : Equipped hs m) (hhost : ∀ c ∈ (hostValue u).toList, Url.Visible c)
    (h : withDefaults m u = .ok m') : Equipped hs m' ∧ m'.fields.length ≤ m.fields.length + 3 := by
  obtain ⟨m₁, h₁, h⟩ := exists_of_bind_ok h
  split at h
  next => cases h
  next =>
    obtain ⟨m₂, h₂, h₃⟩ := exists_of_bind_ok h
    obtain ⟨heq₁, hlength₁, -⟩ := equipped_withDefault hm (by decide)
      (List.all_iff_forall_prop.mp (by decide)) h₁
    obtain ⟨heq₂, hlength₂, -⟩ := equipped_withDefault heq₁ (by decide)
      (List.all_iff_forall_prop.mp (by decide)) h₂
    obtain ⟨heq₃, hlength₃, -⟩ := equipped_withDefault heq₂ (by decide) hhost h₃
    exact ⟨heq₃, by omega⟩

/-- Where there is room, a field that every request has can be put. -/
theorem exists_withDefault {m : HeaderMap} (h : m.size < mostNames) (name value : String) :
    ∃ m', withDefault m name value = .ok m' ∧ m'.size ≤ m.size + 1 := by
  have hroom : m.isFull = false := decide_eq_false (Nat.not_le.mpr h)
  refine ⟨_, by rw [withDefault, hroom]; rfl, ?_⟩
  split
  · exact Nat.le_succ _
  · exact HeaderMap.size_push_le m _ _

/-- Of a call for a web address that can be written, only a header can be in the way. -/
theorem exists_wire {o : Outbound} {m : HeaderMap} (hm : attachAll .empty (given o) = .ok m)
    (hweb : o.url.scheme = "http" ∨ o.url.scheme = "https")
    (haddress : canAddress (addressOf o) = true) (hroom : m.size + 3 < mostNames) :
    ∃ w, wire o = .ok w := by
  have hscheme : (!((addressOf o).scheme = "http" || (addressOf o).scheme = "https")) = false := by
    rw [scheme_addressOf, Bool.not_eq_false', Bool.or_eq_true, decide_eq_true_eq, decide_eq_true_eq]
    exact hweb
  -- each of the three takes one name at most
  obtain ⟨m₁, h₁, hsize₁⟩ := exists_withDefault (by omega : m.size < mostNames) "accept" "*/*"
  obtain ⟨m₂, h₂, hsize₂⟩ :=
    exists_withDefault (by omega : m₁.size < mostNames) "accept-encoding" "gzip,br"
  obtain ⟨m₃, h₃, hsize₃⟩ :=
    exists_withDefault (by omega : m₂.size < mostNames) "host" (hostValue (addressOf o))
  have hfull : m₃.isFull = false := decide_eq_false (by omega)
  have hdefaults : withDefaults m (addressOf o) = .ok m₃ := by
    simp only [withDefaults, h₁, h₂, haddress, bind, Except.bind, Bool.not_true, Bool.false_eq_true,
      if_false, h₃]
  obtain ⟨f, hf⟩ := exists_framed hfull (encode (o.body.getD "").toList)
  simp only [wire, hm, bind, Except.bind, hscheme, Bool.false_eq_true, if_false, hdefaults, hf]
  exact ⟨_, rfl⟩

/-- What goes out of the headers of a request to a web address. -/
theorem written_of_wire {o : Outbound} {w : Wire} (h : wire o = .ok w) {text : String}
    (hurl : Url.parse text = .ok o.url) :
    (∀ header ∈ given o, ¬ Broken header) ∧ Written (given o) w.fields ∧
      w.fields.length ≤ (given o).length + 4 ∧ (∀ f ∈ w.fields, f.Clean) ∧
      ((bodyBytesOf o).length ≤ maxLength → Delimits w.fields (bodyBytesOf o) w.payload) := by
  obtain ⟨m, m', f, hm, hweb, hm', hf, hfields, hcontent, hchunks⟩ := wire_ok h
  have hattached : Attached (given o) m := attached_of_attachAll hm
  have hhost : ∀ c ∈ (hostValue (addressOf o)).toList, Url.Visible c := by
    rw [scheme_addressOf] at hweb
    rw [hostValue_addressOf]
    exact visible_hostValue hurl hweb
  obtain ⟨hequipped, hlength⟩ := equipped_withDefaults hattached.equipped hhost hm'
  -- what says where the body ends is none of the fields that every request has
  have hgiven : ∀ name, name ∉ ownFields → m'.valuesOf name = headerValues (given o) name :=
    fun name hname => (hequipped.values name).resolve_right fun h => hname h.2.1
  obtain ⟨hencodings, hlengths⟩ := length_valuesOf_framed_le hf hequipped.nonempty
  rw [hgiven _ (by decide)] at hencodings hlengths
  refine ⟨hattached.sound, ⟨?_, ?_, ?_⟩, ?_, ?_, ?_⟩
  · intro name hencoding hcount
    rw [hfields, HeaderMap.valuesOf_fields, valuesOf_framed hf hencoding hcount]
    exact hequipped.values name
  · rw [hfields, HeaderMap.valuesOf_fields]
    exact hencodings
  · rw [hfields, HeaderMap.valuesOf_fields]
    exact hlengths
  · have hframed := length_fields_framed_le hf hequipped.nonempty
    rw [hattached.length] at hlength
    rw [hfields]
    omega
  · have hclean := all_framed hf hequipped.clean clean_chunked
      (clean_of_visible List.mem_cons_self (Url.visible_decimalText _))
    intro g hg
    rw [hfields, HeaderMap.mem_fields] at hg
    exact hclean g.name g.value hg
  · intro hsize
    have hdelimits := delimits_framed hf hequipped.nonempty hsize
    rwa [← hfields, ← hcontent, ← hchunks] at hdelimits

/-! ## The exchange -/

theorem wire_of_sent {o : Outbound} {reply : List UInt8} {unpack : Unpacker} {w : Wire}
    (h : (exchange o reply unpack).sent = some w) : wire o = .ok w := by
  unfold exchange at h
  split at h
  next => cases h
  next hw => rw [hw, Option.some.inj h]

/-- A call has its headers, and what its URL says of the caller. -/
theorem length_given_le (o : Outbound) : (given o).length ≤ o.headers.size + 1 := by
  have hcaller : ((splitCredentials o.url).2.map ("authorization", ·)).toList.length ≤ 1 := by
    cases (splitCredentials o.url).2 <;> simp
  rw [given, List.length_append]
  exact (Nat.add_le_add_right hcaller _).trans (Nat.le_of_eq (Nat.add_comm _ _))

/-- A call with a broken header is not sent, and is answered with a request error, unless an earlier
header had no room and the program stopped. -/
theorem exchange_of_broken {o : Outbound} (h : ∃ header ∈ o.headers.entries, Broken header)
    (reply : List UInt8) (unpack : Unpacker) :
    (exchange o reply unpack).sent = none ∧
      ((∃ e : FieldError, (exchange o reply unpack).answer
          = .error (.request (WireError.field e).message)) ∨
        (exchange o reply unpack).stopped = true ∧ mostNames ≤ o.headers.size) := by
  have hgiven : ∃ header ∈ given o, Broken header := by
    obtain ⟨header, hmem, hbroken⟩ := h
    exact ⟨header, List.mem_append_right _ hmem, hbroken⟩
  obtain ⟨e, he⟩ := attachAll_of_broken hgiven
  unfold exchange
  rw [wire_of_error he]
  refine ⟨rfl, ?_⟩
  rcases error_of_attachAll he with ⟨bad, -, reason, -, rfl⟩ | ⟨rfl, hmany⟩
  · exact Or.inl ⟨reason, rfl⟩
  · have hlength := length_given_le o
    have hnone : OrderedMap.size (.empty : HeaderMap) = 0 := rfl
    exact Or.inr ⟨rfl, by omega⟩

/-- The other side of `exchange_of_broken`: a call for a web address that a request can name is
sent, unless one of its headers is broken or has a name of great length, or there are too many. -/
theorem sent_of_sound {o : Outbound}
    (hsound : ∀ header ∈ o.headers.entries, ¬ Broken header ∧ header.1.length ≤ longestName)
    (hroom : o.headers.size + 4 < mostNames)
    (hweb : o.url.scheme = "http" ∨ o.url.scheme = "https")
    (haddress : canAddress (addressOf o) = true) (reply : List UInt8) (unpack : Unpacker) :
    ∃ w, (exchange o reply unpack).sent = some w := by
  have hgiven : ∀ header ∈ given o, ∃ f, field header.1 header.2 = .ok f := by
    intro header hmem
    rcases List.mem_append.mp hmem with hcaller | hown
    · obtain ⟨value, hvalue, rfl⟩ := Option.map_eq_some_iff.mp (Option.mem_toList.mp hcaller)
      exact exists_field_of_credentials hvalue
    · exact exists_field (hsound header hown).1 (hsound header hown).2
  have hlength := length_given_le o
  obtain ⟨m, hm⟩ := exists_attachAll hgiven (by omega)
  have hsize := (attached_of_attachAll hm).size
  obtain ⟨w, hw⟩ := exists_wire hm hweb haddress (by omega)
  exact ⟨w, by rw [exchange, hw]⟩

/-- **Each header has its own lines and no other.** A call with a header whose name is no token or
whose value holds a control is not sent, wherever the header stands, and is answered with a request
error: that of the first header that cannot be attached is kept. The only one that is not kept is
that of a header for which there is no room, behind those of all the names that a map can hold; it
stops the program.

So a call whose placeholders were filled in, whatever with, has no such header if it is sent, and
goes out with the values of its headers under their names, in order, next to at most one field of
each name that a request has of itself. There are no more lines than headers were saved, and six. No
byte of a field ends its line, and who reads the lines up to the empty one finds exactly these
fields. What is behind it is the body, as far as the fields announce it, and nothing more. -/
theorem one_line_per_header (reply : List UInt8) (unpack : Unpacker) :
    (∀ o : Outbound, (∃ header ∈ o.headers.entries, Broken header) →
      (exchange o reply unpack).sent = none ∧
        ((∃ e : FieldError, (exchange o reply unpack).answer
            = .error (.request (WireError.field e).message)) ∨
          (exchange o reply unpack).stopped = true ∧ mostNames ≤ o.headers.size)) ∧
    ∀ (r : Request) (vars : Variables) (o : Outbound) (w : Wire), r.prepare vars = .ok o →
      (exchange o reply unpack).sent = some w →
        (∀ header ∈ o.headers.entries, ¬ Broken header) ∧ Written (given o) w.fields ∧
        w.fields.length ≤ r.headers.size + 6 ∧
        (∀ f ∈ w.fields, ∀ b ∈ f.content, ¬ IsControl b) ∧
        (∀ (room : Nat) (rest : List UInt8), w.fields.length ≤ room →
          fieldLines room (w.fields.flatMap Field.line ++ 13 :: 10 :: rest)
            = .ok (w.fields.map Field.asRead, rest)) ∧
        ((bodyBytesOf o).length ≤ maxLength → Delimits w.fields (bodyBytesOf o) w.payload) := by
  constructor
  · intro o hbroken
    exact exchange_of_broken hbroken reply unpack
  · intro r vars o w hprepare hsent
    obtain ⟨url, hurl, rfl⟩ := Request.exists_of_prepare hprepare
    obtain ⟨hsound, hwritten, hlength, hclean, hdelimits⟩ :=
      written_of_wire (wire_of_sent hsent) hurl
    refine ⟨fun header hmem => hsound header (List.mem_append_right _ hmem), hwritten, ?_, ?_, ?_,
      hdelimits⟩
    · -- the caller is one line more, a content type another, and four are added by the client
      have hgiven := length_given_le ((r.resolve vars).outbound url)
      have hadded := ResolvedRequest.size_outbound_le (r.resolve vars) url
      have hfilled : (r.resolve vars).headers.size ≤ r.headers.size :=
        Template.size_fillMap_le vars r.headers
      omega
    · intro f hf b hb
      exact isFieldByte_iff.mp ((hclean f hf).isFieldByte_of_mem b hb)
    · intro room rest hroom
      exact fieldLines_block hclean hroom rest

/-- A value that would answer a header and begin a request is not sent; one that only looks like a
header is. An encoding that is no end of a request is completed, and the body goes out in chunks. -/
theorem one_line_per_header_injected :
    let host : Authority := { host := .ipv6 [0, 0, 0, 0, 0, 0, 0, 1] }
    let url : Url := { scheme := "http", authority := some host, path := .rooted [""] }
    let split : OrderedMap String :=
      .ofList [("A", "1"), ("X", "v\r\nAdmin: yes\r\n\r\nGET / HTTP/1.1"), ("B", "2")]
    let r : Request :=
      { url := "http://[::1]/", method := .put
        headers := .ofList
          [("X", "\x7b\x7bv\x7d\x7d"), ("Host", "h"), ("Transfer-Encoding", "gzip")] }
    let vars : Variables := .ofList [("v", " Admin: yes\t")]
    ((∃ header ∈ split.entries, Broken header) ∧
      (exchange ⟨.post, url, split, some "\x7b\x7d", 30⟩ [] noUnpacker).sent = none) ∧
    ∃ o w, r.prepare vars = .ok o ∧ (exchange o [] noUnpacker).sent = some w ∧
      w.fields.length = 6 ∧
      fieldLines 6 (w.fields.flatMap Field.line ++ 13 :: 10 :: w.payload)
        = .ok (w.fields.map Field.asRead, w.payload) ∧
      chunks w.payload = .ok (encode "\x7b\x7d".toList, []) := by
  intro host url split r vars
  let o : Outbound := ⟨.put, url, .ofList [("X", " Admin: yes\t"), ("Host", "h"),
    ("Transfer-Encoding", "gzip"), ("Content-Type", "application/json")], some "\x7b\x7d", 30⟩
  have hbroken : ∃ header ∈ split.entries, Broken header := by
    refine ⟨("X", "v\r\nAdmin: yes\r\n\r\nGET / HTTP/1.1"), by decide, .inr ?_⟩
    exact ⟨13, by decide, .inl (by decide)⟩
  have hprepare : r.prepare vars = .ok o := by decide +kernel
  have hrun : (exchange o [] noUnpacker).sent.any (fun w => w.fields.length = 6 ∧
      valuesOf "transfer-encoding" w.fields = [encode "gzip, chunked".toList]) = true := by
    decide +kernel
  obtain ⟨w, hsent, hw⟩ := (Option.any_eq_true _ _).mp hrun
  obtain ⟨hsix, hencoding⟩ := of_decide_eq_true hw
  obtain ⟨hnotSent, hsound⟩ := one_line_per_header [] noUnpacker
  obtain ⟨-, -, -, -, hread, hdelimits⟩ := hsound r vars o w hprepare hsent
  have hbody : (bodyBytesOf o).length ≤ maxLength := by decide +kernel
  have hchunked : valuesOf "transfer-encoding" w.fields ≠ [] := by
    rw [hencoding]
    exact List.cons_ne_nil _ _
  exact ⟨⟨hbroken, (hnotSent _ hbroken).1⟩, o, w, hprepare, hsent, hsix,
    hread 6 w.payload (Nat.le_of_eq hsix), ((hdelimits hbody).inChunks hchunked).2⟩

end CallBook.Http
