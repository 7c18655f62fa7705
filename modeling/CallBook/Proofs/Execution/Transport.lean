import CallBook.Execution.Transport
import CallBook.Proofs.Url.Address
import CallBook.Proofs.Url.Parser

/-!
# Which addresses get the relaxed transport

A URL whose host is an address of another machine should be asked for a valid certificate. Whether
it is depends on its whole text, in which the markers of the own machine are looked for. The text is
taken apart at characters that stand in no marker: slashes, the `@` behind credentials, the brackets
of an IPv6 address, the marks of query and fragment (`Marked.split`). A colon stands in the marker
`::1`, but there it has another one beside it, so that it separates parts without colons as well
(`Marked.splitColon`). What is left is the host by itself (`Marked.host`).

Of the markers only `127.0.0.1` can occur in an IPv4 address, and only in one of the own machine; in
an IPv6 address only `::1` can, and it does whenever the piece behind the gap, the run of zeros that
is left out, begins with a `1`, as in `2606:4700:4700::1111`. Such an address is taken for the own
machine by mistake. In all other addresses of other machines there is no marker, so that
certificates have to be valid there (`standard_of_remote`).

Main result: `relaxed_iff_oneAfterGap`.
-/

namespace CallBook

open Text (lowerAscii decimalText)
open Url (ipv4Text ipv6Text)

/-! ## Statement -/

/-- None of the texts that stand for the own machine occurs. -/
def Unmarked (s : String) : Prop := ∀ m ∈ localMarkers, ¬ m.toList <:+: s.toList

instance (s : String) : Decidable (Unmarked s) :=
  inferInstanceAs (Decidable (∀ m ∈ localMarkers, ¬ m.toList <:+: s.toList))

/-- An IPv4 address outside 127.0.0.0/8, possibly as the name of a host where the scheme has no
addresses, or an IPv6 address other than `::1`. -/
inductive Host.Remote : Host → Prop
  | ipv4 {address : Nat} (far : address / 0x1000000 ≠ 127) : Remote (.ipv4 address)
  | dotted {address : Nat} (hlt : address < 0x100000000) (far : address / 0x1000000 ≠ 127) :
      Remote (.name (String.ofList (ipv4Text address)))
  | ipv6 {pieces : List Nat} (far : pieces ≠ [0, 0, 0, 0, 0, 0, 0, 1]) : Remote (.ipv6 pieces)

/-- Every part of a URL but its host and port has a property. -/
structure Url.AroundHost (p : String → Prop) (u : Url) (a : Authority) : Prop where
  scheme : p u.scheme
  user : p a.user
  password : p a.password
  path : p u.path.text
  query : ∀ query, u.query = some query → p query
  fragment : ∀ fragment, u.fragment = some fragment → p fragment

/-! ## Searching across a separator -/

/-- A text cannot begin at a character that it does not hold. -/
theorem eq_nil_of_prefix_cons {m b : List Char} {c : Char} (hc : c ∉ m) (h : m <+: c :: b) :
    m = [] := by
  rcases List.prefix_cons_iff.mp h with hnil | ⟨t, rfl, -⟩
  · exact hnil
  · exact absurd List.mem_cons_self hc

/-- A text that does not hold a character occurs before it or behind it, never across. -/
theorem infix_append_cons {m a b : List Char} {c : Char} (hc : c ∉ m)
    (h : m <:+: a ++ c :: b) : m <:+: a ∨ m <:+: b := by
  rcases List.infix_append_iff.mp h with ha | hb | ⟨l₁, l₂, rfl, h₁, h₂⟩
  · exact .inl ha
  · rcases List.infix_cons_iff.mp hb with hstart | hlater
    · rw [eq_nil_of_prefix_cons hc hstart]
      exact .inl (List.nil_infix)
    · exact .inr hlater
  · rw [eq_nil_of_prefix_cons (fun hmem => hc (List.mem_append_right l₁ hmem)) h₂,
      List.append_nil]
    exact .inl h₁.isInfix

/-- The text in lower case holds a marker. -/
def Marked (s : List Char) : Prop := ∃ m ∈ localMarkers, m.toList <:+: s.map Char.toLower

/-- A text is taken for that of a target on the own machine exactly if it holds a marker. -/
theorem isLocalTarget_iff {text : String} : isLocalTarget text = true ↔ Marked text.toList := by
  rw [isLocalTarget, List.any_eq_true]
  simp only [Text.occursIn_iff, lowerAscii, String.toList_ofList]
  rfl

theorem not_marked_of_unmarked {s : String} (h : Unmarked (lowerAscii s)) : ¬ Marked s.toList := by
  rintro ⟨m, hm, hin⟩
  exact h m hm (by rwa [lowerAscii, String.toList_ofList])

theorem not_marked_nil : ¬ Marked [] := by
  rintro ⟨m, hm, hin⟩
  have hne : ∀ m ∈ localMarkers, m.toList ≠ [] := by decide
  exact hne m hm (List.eq_nil_of_infix_nil hin)

/-- A marker in a part is one in the whole. -/
theorem Marked.mono {a b : List Char} (hab : a <:+: b) (h : Marked a) : Marked b := by
  obtain ⟨m, hm, hin⟩ := h
  exact ⟨m, hm, hin.trans (hab.map Char.toLower)⟩

/-- Characters that stand in no marker. -/
def fences : List Char := ['/', '@', '?', '#', '[', ']']

/-- A fence separates: a marker stands on one side of it. -/
theorem Marked.split {fence : Char} (hf : fence ∈ fences) {a b : List Char}
    (h : Marked (a ++ fence :: b)) : Marked a ∨ Marked b := by
  obtain ⟨m, hm, hin⟩ := h
  have hout : ∀ m ∈ localMarkers, fence.toLower ∉ m.toList := by
    simp only [fences, List.mem_cons, List.not_mem_nil, or_false] at hf
    rcases hf with rfl | rfl | rfl | rfl | rfl | rfl <;> decide
  rw [List.map_append, List.map_cons] at hin
  rcases infix_append_cons (hout m hm) hin with ha | hb
  · exact .inl ⟨m, hm, ha⟩
  · exact .inr ⟨m, hm, hb⟩

theorem eq_colon_of_toLower {c : Char} (h : c.toLower = ':') : c = ':' := by
  unfold Char.toLower at h
  split at h
  next hupper =>
    have hval := congrArg Char.val h
    grind
  next => exact h

/-- Lower case makes no colons. -/
theorem count_colon_map_toLower {s : List Char} (h : ':' ∉ s) :
    (s.map Char.toLower).count ':' = 0 := by
  rw [List.count_eq_zero, List.mem_map]
  rintro ⟨c, hc, hlower⟩
  exact h (eq_colon_of_toLower hlower ▸ hc)

/-- A single colon separates as well: it takes two of them to make a marker. -/
theorem Marked.splitColon {a b : List Char} (ha : ':' ∉ a) (hb : ':' ∉ b)
    (h : Marked (a ++ ':' :: b)) : Marked a ∨ Marked b := by
  obtain ⟨m, hm, hin⟩ := h
  rw [List.map_append, List.map_cons] at hin
  have hcount := hin.count_le ':'
  rw [List.count_append, List.count_cons, count_colon_map_toLower ha,
    count_colon_map_toLower hb] at hcount
  have hfew : ∀ m ∈ localMarkers, m.toList.count ':' ≤ 1 → ':' ∉ m.toList := by decide
  rcases infix_append_cons (hfew m hm hcount) hin with ha | hb
  · exact .inl ⟨m, hm, ha⟩
  · exact .inr ⟨m, hm, hb⟩

/-- No marker ends with a colon. -/
theorem Marked.of_concat_colon {s : List Char} (h : Marked (s ++ [':'])) : Marked s := by
  obtain ⟨m, hm, hin⟩ := h
  rw [List.map_append] at hin
  rcases List.infix_concat_iff.mp hin with hend | hin
  · have hlast : ∀ m ∈ localMarkers, m.toList ≠ [] ∧ m.toList.getLast? ≠ some ':' := by decide
    rcases List.suffix_concat_iff.mp hend with hnil | ⟨t, ht, -⟩
    · exact absurd hnil (hlast m hm).1
    · exact absurd (by rw [ht, List.getLast?_concat]; rfl) (hlast m hm).2
  · exact ⟨m, hm, hin⟩

/-- A text that is empty or begins with a fence. -/
def Fenced (s : List Char) : Prop := ∀ c, s.head? = some c → c ∈ fences

theorem Fenced.append {a b : List Char} (ha : Fenced a) (hb : Fenced b) : Fenced (a ++ b) := by
  cases a with
  | nil => exact hb
  | cons c a => exact ha

/-- A marker stands in one of two parts of which the second begins with a fence. -/
theorem Marked.cut {a b : List Char} (hb : Fenced b) (h : Marked (a ++ b)) :
    Marked a ∨ Marked b := by
  cases b with
  | nil =>
    rw [List.append_nil] at h
    exact .inl h
  | cons c b =>
    rcases h.split (hb c rfl) with ha | hb
    · exact .inl ha
    · exact .inr (hb.mono (List.infix_cons List.infix_rfl))

/-! ## The parts of a URL -/

theorem fenced_partText {mark : String} {c : Char} (hm : mark.toList = [c]) (hc : c ∈ fences)
    (part : Option String) : Fenced (Url.partText mark part).toList := by
  intro d hd
  cases part with
  | none => cases hd
  | some text =>
    rw [Url.partText, String.toList_append, hm] at hd
    cases hd
    exact hc

/-- A marker in a part that has a mark before it stands behind the mark. -/
theorem Marked.of_partText {mark : String} {c : Char} (hm : mark.toList = [c]) (hc : c ∈ fences)
    {part : Option String} (h : Marked (Url.partText mark part).toList) :
    ∃ text, part = some text ∧ Marked text.toList := by
  cases part with
  | none => exact absurd h not_marked_nil
  | some text =>
    rw [Url.partText, String.toList_append, hm] at h
    exact ⟨text, rfl, (@Marked.split c hc [] _ h).resolve_left not_marked_nil⟩

/-- A path with segments begins with a slash. -/
theorem fenced_rooted (segments : List String) :
    Fenced (Path.rooted segments).text.toList := by
  intro c hc
  cases segments with
  | nil => cases hc
  | cons segment more =>
    rw [Path.text, List.map_cons, String.join_cons, String.toList_append,
      String.toList_append] at hc
    cases hc
    exact List.mem_cons_self

/-- A marker stands in the user, in the password, or behind both. -/
theorem Marked.of_credentials {a : Authority} (ha : a.Canonical) {rest : List Char}
    (h : Marked (a.credentialsText.toList ++ rest)) :
    Marked a.user.toList ∨ Marked a.password.toList ∨ Marked rest := by
  unfold Authority.credentialsText at h
  split at h
  next => exact .inr (.inr h)
  next =>
    split at h
    next =>
      rw [String.toList_append, List.append_assoc] at h
      rcases @Marked.split '@' (by decide) _ _ h with huser | hrest
      · exact .inl huser
      · exact .inr (.inr hrest)
    next =>
      have hshape : (a.user ++ ":" ++ a.password ++ "@").toList ++ rest
          = (a.user.toList ++ ':' :: a.password.toList) ++ '@' :: rest := by
        simp
      rw [hshape] at h
      rcases Marked.split (by decide) h with hboth | hrest
      · rcases hboth.splitColon ha.user ha.password with huser | hpassword
        · exact .inl huser
        · exact .inr (.inl hpassword)
      · exact .inr (.inr hrest)

/-- The text of a URL with an authority, part by part. -/
theorem Url.toList_text {u : Url} {a : Authority} (ha : u.authority = some a) :
    u.text.toList = (u.scheme.toList ++ [':']) ++ '/' :: ([] ++ '/' :: (a.credentialsText.toList
      ++ ((a.host.text.toList ++ a.portText.toList) ++ (u.path.text.toList
        ++ ((partText "?" u.query).toList ++ (partText "#" u.fragment).toList))))) := by
  simp [Url.text, Url.authorityText, Authority.text, ha]

/-- The host stands in the text of its URL. -/
theorem Url.host_infix_text {u : Url} {a : Authority} (ha : u.authority = some a) :
    a.host.text.toList <:+: u.text.toList := by
  refine ⟨(u.scheme ++ "://" ++ a.credentialsText).toList,
    (a.portText ++ u.path.text ++ partText "?" u.query ++ partText "#" u.fragment).toList, ?_⟩
  simp [Url.text, Url.authorityText, Authority.text, ha]

theorem Url.host?_eq {u : Url} {a : Authority} (ha : u.authority = some a)
    (hne : a.host ≠ .empty) : u.host? = some a.host := by
  unfold Url.host?
  rw [ha]
  split
  next heq => cases heq
  next heq =>
    cases heq
    exact absurd rfl hne
  next heq =>
    cases heq
    rfl

/-- A marker that no other part of a URL holds is one of host and port. -/
theorem Marked.host {u : Url} {a : Authority} (hu : u.Canonical) (ha : u.authority = some a)
    (haround : u.AroundHost (fun s => Unmarked (lowerAscii s)) a) (h : Marked u.text.toList) :
    Marked (a.host.text.toList ++ a.portText.toList) := by
  obtain ⟨hcanonical, segments, hpath⟩ := hu a ha
  have hquery : Fenced (Url.partText "?" u.query).toList := fenced_partText rfl (by decide) _
  have hfragment : Fenced (Url.partText "#" u.fragment).toList := fenced_partText rfl (by decide) _
  have hsegments : Fenced u.path.text.toList := hpath ▸ fenced_rooted segments
  rw [Url.toList_text ha] at h
  -- from the front, one part after the other; `h` is about what is left of the text
  rcases Marked.split (by decide) h with hscheme | h
  · exact absurd hscheme.of_concat_colon (not_marked_of_unmarked haround.scheme)
  rcases Marked.split (by decide) h with hnil | h
  · exact absurd hnil not_marked_nil
  rcases h.of_credentials hcanonical with huser | hpassword | h
  · exact absurd huser (not_marked_of_unmarked haround.user)
  · exact absurd hpassword (not_marked_of_unmarked haround.password)
  rcases h.cut (hsegments.append (hquery.append hfragment)) with hhost | h
  · exact hhost
  exfalso
  rcases h.cut (hquery.append hfragment) with hmarked | h
  · exact not_marked_of_unmarked haround.path hmarked
  rcases h.cut hfragment with hmarked | hmarked
  · obtain ⟨query, hsome, hmarked⟩ := hmarked.of_partText rfl (by decide)
    exact not_marked_of_unmarked (haround.query query hsome) hmarked
  · obtain ⟨fragment, hsome, hmarked⟩ := hmarked.of_partText rfl (by decide)
    exact not_marked_of_unmarked (haround.fragment fragment hsome) hmarked

/-! ## Hosts -/

/-- What addresses and ports are written with. -/
def addressChars : List Char := '.' :: ':' :: Url.addressDigits

/-- The marker with letters occurs in no text of digits, full stops and colons. -/
theorem Marked.of_subset {s : List Char} (hs : s ⊆ addressChars) (h : Marked s) :
    "127.0.0.1".toList <:+: s ∨ "::1".toList <:+: s := by
  have hlower : s.map Char.toLower = s := by
    have hall : addressChars.map Char.toLower = addressChars.map id := by decide
    have hsame : ∀ c ∈ s, c.toLower = id c := fun c hc => List.map_inj_left.mp hall c (hs hc)
    rw [List.map_congr_left hsame, List.map_id]
  obtain ⟨m, hm, hin⟩ := h
  rw [hlower] at hin
  simp only [localMarkers, List.mem_cons, List.not_mem_nil, or_false] at hm
  rcases hm with rfl | rfl | rfl
  · have hletter : 'l' ∈ s := hin.subset (by decide)
    exact absurd (hs hletter) (by decide)
  · exact .inl hin
  · exact .inr hin

theorem not_marked_decimalText (n : Nat) : ¬ Marked (decimalText n) := by
  intro h
  have hdigits := Url.decimalText_subset n
  have hsubset : decimalText n ⊆ addressChars :=
    List.subset_cons_of_subset _ (List.subset_cons_of_subset _ hdigits)
  rcases h.of_subset hsubset with hin | hin
  · have hdot : '.' ∈ decimalText n := hin.subset (by decide)
    exact absurd (hdigits hdot) (by decide)
  · have hcolon : ':' ∈ decimalText n := hin.subset (by decide)
    exact absurd (hdigits hcolon) (by decide)

/-- The port adds no marker to a text without colons. -/
theorem Marked.of_port {host : List Char} (hcolon : ':' ∉ host) {a : Authority}
    (h : Marked (host ++ a.portText.toList)) : Marked host := by
  unfold Authority.portText at h
  split at h
  next =>
    rw [String.toList_empty, List.append_nil] at h
    exact h
  next port _ =>
    have hshape : (":" ++ Text.decimal port).toList = ':' :: decimalText port := by
      simp [Text.decimal]
    have hdigits : ':' ∉ decimalText port := fun hc =>
      absurd (Url.decimalText_subset port hc) (by decide)
    rw [hshape] at h
    exact (h.splitColon hcolon hdigits).resolve_right (not_marked_decimalText port)

/-- An IPv4 address of another machine holds no marker, whatever its port is. -/
theorem not_marked_ipv4Text {address : Nat} (hlt : address < 0x100000000)
    (far : address / 0x1000000 ≠ 127) {a : Authority} :
    ¬ Marked (ipv4Text address ++ a.portText.toList) := by
  intro h
  have hchars := Url.ipv4Text_subset address
  have hcolon : ':' ∉ ipv4Text address := fun hc => absurd (hchars hc) (by decide)
  have hsubset : ipv4Text address ⊆ addressChars :=
    List.Subset.trans hchars (List.cons_subset_cons _ (List.subset_cons_self _ _))
  rcases (h.of_port hcolon).of_subset hsubset with hin | hin
  · exact far (Url.eq_of_loopback_infix hlt hin)
  · exact hcolon (hin.subset (by decide))

/-- If an IPv6 address holds a marker, the digit `1` follows its gap. -/
theorem Marked.oneAfterGap {pieces : List Nat} {a : Authority}
    (h : Marked ((Host.ipv6 pieces).text.toList ++ a.portText.toList)) :
    Url.OneAfterGap pieces := by
  have hshape : (Host.ipv6 pieces).text.toList ++ a.portText.toList
      = [] ++ '[' :: (ipv6Text pieces ++ ']' :: ([] ++ a.portText.toList)) := by
    simp [Host.text]
  rw [hshape] at h
  rcases Marked.split (by decide) h with hnil | h
  · exact absurd hnil not_marked_nil
  rcases Marked.split (by decide) h with haddress | hport
  · have hchars := Url.ipv6Text_subset pieces
    rcases haddress.of_subset (List.subset_cons_of_subset _ hchars) with hin | hin
    · have hdot : '.' ∈ ipv6Text pieces := hin.subset (by decide)
      exact absurd (hchars hdot) (by decide)
    · exact (Url.one_after_colons_iff pieces).mp hin
  · exact absurd (hport.of_port List.not_mem_nil) not_marked_nil

/-- An IPv6 address whose gap is followed by the digit `1` holds a marker. -/
theorem marked_of_oneAfterGap {pieces : List Nat} (h : Url.OneAfterGap pieces) :
    Marked (Host.ipv6 pieces).text.toList := by
  have hin := (Url.one_after_colons_iff pieces).mpr h
  have haddress : Marked (ipv6Text pieces) :=
    ⟨"::1", by decide, hin.map Char.toLower⟩
  refine haddress.mono ?_
  rw [Host.text, String.toList_ofList]
  exact ⟨['['], [']'], rfl⟩

/-- If the address of another machine is taken for the own one, the digit `1` follows its gap. -/
theorem Host.Remote.oneAfterGap {u : Url} {a : Authority} (hu : u.Canonical)
    (ha : u.authority = some a) (hhost : a.host.Remote)
    (haround : u.AroundHost (fun s => Unmarked (lowerAscii s)) a)
    (hlocal : isLocalTarget u.text = true) :
    ∃ pieces, a.host = .ipv6 pieces ∧ Url.OneAfterGap pieces := by
  have hmarked := (isLocalTarget_iff.mp hlocal).host hu ha haround
  generalize heq : a.host = host at hhost hmarked ⊢
  cases hhost with
  | @ipv4 address far =>
    rw [Host.text, String.toList_ofList] at hmarked
    exact absurd hmarked (not_marked_ipv4Text ((hu a ha).1.host address heq) far)
  | dotted hlt far =>
    rw [Host.text, String.toList_ofList] at hmarked
    exact absurd hmarked (not_marked_ipv4Text hlt far)
  | @ipv6 pieces _ => exact ⟨pieces, rfl, hmarked.oneAfterGap⟩

/-! ## The choice -/

/-- If the host of a URL is the address of another machine, in IPv6 one whose gap is not followed by
the digit `1`, and no other part of the URL mentions the own machine, then certificates have to be
valid. -/
theorem standard_of_remote (known : String → Bool) {text : String} {u : Url} {a : Authority}
    (h : Url.parse text = .ok u) (ha : u.authority = some a) (hhost : a.host.Remote)
    (hgap : ∀ pieces, a.host = .ipv6 pieces → ¬ Url.OneAfterGap pieces)
    (haround : u.AroundHost (fun s => Unmarked (lowerAscii s)) a) :
    u.transportKind known = .standard := by
  unfold Url.transportKind
  split
  next hboth =>
    exfalso
    have hlocal := (Bool.and_eq_true_iff.mp hboth).1
    obtain ⟨pieces, hpieces, hone⟩ :=
      hhost.oneAfterGap (Url.canonical_of_parse h) ha haround hlocal
    exact hgap pieces hpieces hone
  next => rfl

/-- An IPv6 address whose gap is followed by the digit `1` gets the relaxed transport, whatever
else is in the URL. -/
theorem relaxed_of_oneAfterGap (known : String → Bool) {u : Url} {a : Authority}
    (ha : u.authority = some a) (hport : u.port?.isSome = true) {pieces : List Nat}
    (hpieces : a.host = .ipv6 pieces) (hone : Url.OneAfterGap pieces) :
    u.transportKind known = .relaxed := by
  have hmarked : Marked u.text.toList := by
    have hin := Url.host_infix_text ha
    rw [hpieces] at hin
    exact (marked_of_oneAfterGap hone).mono hin
  have hresolves : u.resolves known = true := by
    rw [Url.resolves, hport, Url.host?_eq ha (by rw [hpieces]; simp), hpieces]
    rfl
  rw [Url.transportKind, isLocalTarget_iff.mpr hmarked, hresolves]
  rfl

/-- Let the host of a URL be the address of another machine and let no other part of the URL mention
the own machine. Then certificates are not checked exactly if the host is an IPv6 address whose gap
is followed by the digit `1`. -/
theorem relaxed_iff_oneAfterGap (known : String → Bool) {text : String} {u : Url} {a : Authority}
    (h : Url.parse text = .ok u) (ha : u.authority = some a) (hport : u.port?.isSome = true)
    (hhost : a.host.Remote) (haround : u.AroundHost (fun s => Unmarked (lowerAscii s)) a) :
    u.transportKind known = .relaxed ↔
      ∃ pieces, a.host = .ipv6 pieces ∧ Url.OneAfterGap pieces := by
  constructor
  · intro hkind
    by_contra hnone
    have hstandard : u.transportKind known = .standard :=
      standard_of_remote known h ha hhost (fun pieces hpieces hone => hnone ⟨pieces, hpieces, hone⟩)
        haround
    rw [hstandard] at hkind
    cases hkind
  · rintro ⟨pieces, hpieces, hone⟩
    exact relaxed_of_oneAfterGap known ha hport hpieces hone

/-- The gap of `2606:4700:4700::1111` is followed by the digit `1`, that of `2001:db8::2` is not. -/
theorem relaxed_iff_oneAfterGap_of_two_addresses :
    (∃ u, Url.parse "https://[2606:4700:4700::1111]/" = .ok u ∧
      u.transportKind (fun _ => false) = .relaxed) ∧
    ∃ u, Url.parse "https://[2001:db8::2]/users?page=1" = .ok u ∧
      u.transportKind (fun _ => false) ≠ .relaxed := by
  have hpublic : Url.parse "https://[2606:4700:4700::1111]/" = .ok
      { scheme := "https"
        authority := some { host := .ipv6 [0x2606, 0x4700, 0x4700, 0, 0, 0, 0, 0x1111] }
        path := .rooted [""] } := rfl
  have hdocumentation : Url.parse "https://[2001:db8::2]/users?page=1" = .ok
      { scheme := "https", authority := some { host := .ipv6 [0x2001, 0xdb8, 0, 0, 0, 0, 0, 2] }
        path := .rooted ["users"], query := some "page=1" } := rfl
  constructor
  · refine ⟨_, hpublic, (relaxed_iff_oneAfterGap _ hpublic rfl rfl (.ipv6 (by decide)) ?_).mpr ?_⟩
    · exact ⟨by decide +kernel, by decide, by decide, by decide +kernel, by simp, by simp⟩
    · exact ⟨_, rfl, 3, 4, 0x1111, 3, Url.longestRun_longestZeros _, by decide, rfl, by decide⟩
  · refine ⟨_, hdocumentation, ?_⟩
    rw [Ne, relaxed_iff_oneAfterGap _ hdocumentation rfl rfl (.ipv6 (by decide)) ?_]
    · rintro ⟨pieces, hpieces, place, count, n, k, hrun, -, hn, hk⟩
      cases hpieces
      -- the piece behind the gap is 2, which does not begin with the digit `1`
      obtain ⟨rfl, rfl⟩ := hrun.unique (Url.longestRun_longestZeros _)
      cases hn
      exact absurd ((Url.head?_hexText 2).mpr ⟨k, hk⟩) (by decide)
    · refine ⟨by decide +kernel, by decide, by decide, by decide +kernel, ?_, by simp⟩
      rintro query ⟨⟩
      decide +kernel

/-- A public address is taken for the own machine: the text of the URL holds `::1`. -/
theorem not_standard_of_remote :
    ∃ u a, Url.parse "https://[2606:4700:4700::1111]/" = .ok u ∧ u.authority = some a ∧
      u.port?.isSome = true ∧ a.host.Remote ∧
      u.AroundHost (fun s => Unmarked (lowerAscii s)) a ∧
      u.transportKind (fun _ => false) ≠ .standard := by
  have hparse : Url.parse "https://[2606:4700:4700::1111]/" = .ok
      { scheme := "https"
        authority := some { host := .ipv6 [0x2606, 0x4700, 0x4700, 0, 0, 0, 0, 0x1111] }
        path := .rooted [""] } := rfl
  refine ⟨_, _, hparse, rfl, rfl, .ipv6 (by decide), ?_, by decide +kernel⟩
  exact ⟨by decide +kernel, by decide, by decide, by decide +kernel, by simp, by simp⟩

end CallBook
