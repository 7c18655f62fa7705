import Mathlib.Data.List.DropRight
import CallBook.Proofs.Import.Address

/-!
# What an imported call is named after

The last segment is cut out of whatever the shape of an address takes for a path. It is the last
segment of the path that is not empty (`lastSegment?_eq_some`, `exists_isLastSegment`), and its
words are capitalized one by one (`titleCase_eq_headline`); an address without such a segment is
named after its host.

A query is cut off only behind a path that has a character after its first slash: the shape of a
host goes on to the next slash, and that of a path needs one character, which may be the `?`.

Main results: `title_of_segments`, `title_query_iff`.
-/

namespace CallBook.Import

open Text (isBlank upperChars)

/-! ## Last segments -/

/-- The last segment of a path that is not empty: it stands behind a slash, and only slashes stand
behind it. -/
structure IsLastSegment (path segment : List Char) : Prop where
  nonempty : segment ≠ []
  slash : '/' ∉ segment
  place : ∃ before after, path = before ++ '/' :: (segment ++ after) ∧ ∀ c ∈ after, c = '/'

theorem lastSegment?_slash (path : List Char) : lastSegment? ('/' :: path) = lastSegment? path := by
  rw [lastSegment?, Text.fields, if_pos (by rfl), List.filter_cons_of_neg (by decide)]
  rfl

/-- Between slashes alone there is no segment. -/
theorem fields_of_slashes {after : List Char} (h : ∀ c ∈ after, c = '/') :
    (Text.fields (· == '/') after).filter (!·.isEmpty) = [] := by
  induction after with
  | nil => rfl
  | cons c after ih =>
    rw [Text.fields, if_pos (by simp [h c List.mem_cons_self]), List.filter_cons_of_neg (by decide)]
    exact ih fun d hd => h d (List.mem_cons_of_mem c hd)

/-- The last segment is found. -/
theorem lastSegment?_eq_some {path segment : List Char} (h : IsLastSegment path segment) :
    lastSegment? path = some segment := by
  obtain ⟨hne, hslash, before, after, rfl, hafter⟩ := h
  have hkept : (Text.fields (· == '/') (segment ++ after)).filter (!·.isEmpty) = [segment] := by
    have hsegment : ([segment] : List (List Char)).filter (!·.isEmpty) = [segment] :=
      List.filter_cons_of_pos (by simpa using hne)
    cases after with
    | nil => rw [List.append_nil, Text.fields_of_notMem hslash, hsegment]
    | cons c after =>
      rw [hafter c List.mem_cons_self, Text.fields_append (by rfl), Text.fields_of_notMem hslash,
        List.filter_append, hsegment,
        fields_of_slashes fun d hd => hafter d (List.mem_cons_of_mem c hd), List.append_nil]
  rw [lastSegment?, Text.fields_append (by rfl), List.filter_append, hkept, List.getLast?_concat]

/-- A path that is not made of slashes has a last segment. -/
theorem exists_isLastSegment {path : List Char} (h : ¬ ∀ c ∈ path, c = '/') :
    ∃ segment, IsLastSegment ('/' :: path) segment := by
  let kept := path.rdropWhile (· == '/')
  let after := path.rtakeWhile (· == '/')
  have hpath : kept ++ after = path := List.rdropWhile_append_rtakeWhile
  have hafter : ∀ c ∈ after, c = '/' := fun c hc => by simpa using List.mem_rtakeWhile_imp hc
  have hkept : kept ≠ [] := fun he => h fun c hc => by
    simpa using List.rdropWhile_eq_nil_iff.mp he c hc
  have hlast : kept.getLast hkept ≠ '/' := by simpa using List.rdropWhile_last_not _ _ hkept
  -- what is left ends in the segment, which reaches back to the last slash
  have hmem : '/' ∈ ('/' :: kept).reverse := List.mem_reverse.mpr List.mem_cons_self
  obtain ⟨segment, before, hcut, hslash⟩ := List.eq_append_cons_of_mem hmem
  have hplace : '/' :: kept = before.reverse ++ '/' :: segment.reverse := by
    rw [← List.reverse_reverse ('/' :: kept), hcut]
    simp
  refine ⟨segment.reverse, ?_, by simpa using hslash, before.reverse, after, ?_, hafter⟩
  · intro he
    rw [he] at hplace
    have hends := congrArg List.getLast? hplace
    rw [List.getLast?_concat, List.getLast?_cons, List.getLast?_eq_some_getLast hkept] at hends
    exact hlast (Option.some.inj hends)
  · rw [← hpath, ← List.cons_append, hplace]
    simp

/-! ## Title case -/

/-- A character begins a word if it is not white space and what stands before it is. -/
def beginsWord (before c : Char) : Bool := isBlank before && !isBlank c

/-- A segment as a title: dashes and underscores are spaces, and the first character of every word
is in upper case. -/
def headline (segment : List Char) : List Char :=
  let text := segment.map fun c => if c = '-' ∨ c = '_' then ' ' else c
  ((' ' :: text).zip text).flatMap fun (before, c) =>
    if beginsWord before c then upperChars c else [c]

/-- A character is put in upper case by what stands before it alone. -/
theorem capitalize_eq_flatMap (before : Char) (s : List Char) :
    capitalize (isBlank before) s = ((before :: s).zip s).flatMap fun (before, c) =>
      if beginsWord before c then upperChars c else [c] := by
  induction s generalizing before with
  | nil => rfl
  | cons c rest ih =>
    rw [List.zip_cons_cons, List.flatMap_cons, ← ih c, capitalize]
    cases hc : isBlank c with
    | true => simp [beginsWord, hc]
    | false => cases hb : isBlank before <;> simp [beginsWord, hc, hb]

/-- The words of a segment are put in title case. -/
theorem titleCase_eq_headline (segment : List Char) : titleCase segment = headline segment := by
  have hspaced : segment.map spaced
      = segment.map fun c => if c = '-' ∨ c = '_' then ' ' else c := by
    refine List.map_congr_left fun c _ => ?_
    simp [spaced]
  rw [titleCase, hspaced]
  exact capitalize_eq_flatMap ' ' _

theorem capitalize_ne_nil {s : List Char} (h : s ≠ []) (atStart : Bool) :
    capitalize atStart s ≠ [] := by
  cases s with
  | nil => exact absurd rfl h
  | cons c rest =>
    rw [capitalize]
    split
    · exact List.cons_ne_nil _ _
    · split
      · exact List.append_ne_nil_of_left_ne_nil (Text.upperChars_ne_nil c) _
      · exact List.cons_ne_nil _ _

/-! ## Segments -/

section Segments

variable {a : PlainAddress} {segment : List Char}

/-- The title of an address is made from its last segment. -/
theorem title_of_isLastSegment (h : IsLastSegment a.path.toList segment) :
    title a.text = String.ofList (headline segment) := by
  rcases a.path_cases with hshort | ⟨first, more, hpath⟩
  · -- behind at most a slash there is no segment
    obtain ⟨hne, -, before, after, hplace, -⟩ := h
    have hlength := congrArg List.length hplace
    have hpos := List.length_pos_iff.mpr hne
    rw [List.length_append, List.length_cons, List.length_append] at hlength
    rcases hshort with hpath | hpath
    · rw [hpath, List.length_nil] at hlength
      omega
    · rw [hpath, List.length_singleton] at hlength
      omega
  · have hlast := lastSegment?_eq_some h
    rw [hpath, lastSegment?_slash] at hlast
    rw [a.title_of_long_path hpath (Or.inl rfl) (List.append_nil _).symm, hlast, Option.elim_some,
      titleCase_eq_headline]

/-- The title of an address without segments is its host. -/
theorem title_of_no_segment (h : ¬ ∃ segment, IsLastSegment a.path.toList segment) :
    title a.text = a.host := by
  rcases a.path_cases with hshort | ⟨first, more, hpath⟩
  · exact a.title_of_short_path hshort
  · rw [hpath] at h
    have hslashes : ∀ c ∈ first :: more, c = '/' := by
      by_contra hsome
      exact h (exists_isLastSegment hsome)
    have hnone : lastSegment? (first :: more) = none := by
      rw [lastSegment?, fields_of_slashes hslashes, List.getLast?_nil]
    rw [a.title_of_long_path hpath (Or.inl rfl) (List.append_nil _).symm, hnone, Option.elim_none,
      String.ofList_toList]

end Segments

/-- Where no address begins, neither shape fits. -/
theorem title_of_no_scheme {url : String} (h : ∀ scheme ∈ schemes, ¬ scheme <:+: url.toList) :
    title url = fallbackTitle := by
  have hhost? : ∀ t, t <:+ url.toList → host? t = none := by
    rintro t ⟨before, ht⟩
    rw [Option.eq_none_iff_forall_ne_some]
    rintro ⟨host, rest⟩ hhost
    obtain ⟨-, scheme, hscheme, rfl⟩ := exists_of_host? hhost
    exact h scheme hscheme ⟨before, host ++ rest, by rw [← ht, List.append_assoc]⟩
  have hpath : firstMatch path? url.toList = none :=
    firstMatch_eq_none fun t ht => by rw [path?, hhost? t ht]
  have hhost : firstMatch (fun t => (host? t).map Prod.fst) url.toList = none :=
    firstMatch_eq_none fun t ht => by rw [hhost? t ht, Option.map_none]
  rw [title, hpath, hhost]
  rfl

theorem ne_nil_of_lastSegment? {path segment : List Char} (h : lastSegment? path = some segment) :
    segment ≠ [] := by
  have hmem := List.mem_of_getLast? h
  simpa using (List.mem_filter.mp hmem).2

/-- Every text has a title. -/
theorem title_ne_empty (url : String) : title url ≠ "" := by
  rw [title]
  split
  · next segment hsegment =>
    obtain ⟨path, -, hlast⟩ := Option.bind_eq_some_iff.mp hsegment
    have hne : segment.map spaced ≠ [] := by simpa using ne_nil_of_lastSegment? hlast
    intro he
    exact capitalize_ne_nil hne true (String.ofList_eq_empty_iff.mp he)
  · split
    · next host hhost =>
      obtain ⟨t, -, hfound⟩ := exists_of_firstMatch hhost
      obtain ⟨⟨host', rest⟩, hsome, rfl⟩ := Option.map_eq_some_iff.mp hfound
      intro he
      exact (exists_of_host? hsome).1 (String.ofList_eq_empty_iff.mp he)
    · decide

/-- **A call is named after the last segment of its path.** An address without a query gives the
last segment of its path that is not empty, with dashes and underscores as spaces and the first
character of every word in upper case; if the path has no such segment, it gives its host. A text in
which no address begins gives a fixed name, and no text gives an empty one. -/
theorem title_of_segments :
    (∀ a : PlainAddress,
      (∀ segment, IsLastSegment a.path.toList segment →
        title a.text = String.ofList (headline segment)) ∧
      ((¬ ∃ segment, IsLastSegment a.path.toList segment) → title a.text = a.host)) ∧
    (∀ url : String, ¬ "http://".toList <:+: url.toList → ¬ "https://".toList <:+: url.toList →
      title url = fallbackTitle) ∧
    ∀ url : String, title url ≠ "" := by
  refine ⟨fun a => ⟨fun _ => title_of_isLastSegment, title_of_no_segment⟩, ?_, title_ne_empty⟩
  intro url hhttp hhttps
  refine title_of_no_scheme fun scheme hscheme => ?_
  simp only [schemes, List.mem_cons, List.not_mem_nil, or_false] at hscheme
  rcases hscheme with rfl | rfl
  · exact hhttp
  · exact hhttps

/-- Repeated slashes on both sides of the last segment, a path of slashes alone, and another
scheme. -/
theorem title_of_segments_repeated_slashes :
    let long : PlainAddress := {
      secure := true
      host := "http:x"
      path := "//v1//order_items-v2//"
      path_rooted := .inr ⟨_, rfl⟩ }
    let bare : PlainAddress := {
      secure := false, host := "http:x", path := "//", path_rooted := .inr ⟨_, rfl⟩ }
    title long.text = "Order Items V2" ∧ title bare.text = "http:x" ∧
      title "ftp://files/a" = fallbackTitle ∧ title "" ≠ "" := by
  intro long bare
  obtain ⟨haddress, hfallback, hne⟩ := title_of_segments
  have hsegment : IsLastSegment long.path.toList "order_items-v2".toList :=
    ⟨by decide, by decide, "//v1/".toList, "//".toList, by decide +kernel, by simp⟩
  have hslashes : ¬ ∃ segment, IsLastSegment bare.path.toList segment := by
    rintro ⟨segment, h⟩
    have hnone : lastSegment? bare.path.toList = none := by decide
    rw [lastSegment?_eq_some h] at hnone
    cases hnone
  refine ⟨?_, (haddress bare).2 hslashes, ?_, hne ""⟩
  · rw [(haddress long).1 _ hsegment]
    decide +kernel
  · refine hfallback _ ?_ ?_
    · rw [← Text.occursIn_iff]
      decide
    · rw [← Text.occursIn_iff]
      decide

/-! ## Queries -/

section Query

variable {a : PlainAddress} {query : String}

/-- The text of an address with a query, part by part. -/
theorem PlainAddress.toList_text_query (a : PlainAddress) (query : String) :
    (a.text ++ "?" ++ query).toList
      = a.scheme.toList ++ (a.host.toList ++ (a.path.toList ++ '?' :: query.toList)) := by
  rw [String.toList_append, String.toList_append, a.toList_text]
  simp

/-- A path that has more than its slash ends before the query. -/
theorem title_query_of_path (h : 2 ≤ a.path.length) (query : String) :
    title (a.text ++ "?" ++ query) = title a.text := by
  rw [← String.length_toList] at h
  rcases a.path_cases with (hpath | hpath) | ⟨first, more, hpath⟩
  · rw [hpath] at h
    exact absurd h (by decide)
  · rw [hpath] at h
    exact absurd h (by decide)
  · have hurl : (a.text ++ "?" ++ query).toList = a.text.toList ++ '?' :: query.toList := by simp
    rw [a.title_of_long_path hpath (Or.inl rfl) (List.append_nil _).symm,
      a.title_of_long_path hpath (Or.inr ⟨query.toList, rfl⟩) hurl]

/-- Without a path the query is taken for a part of the host. -/
theorem title_query_of_host (hpath : a.path.toList = []) (hslash : '/' ∉ query.toList) :
    title (a.text ++ "?" ++ query) = a.host ++ "?" ++ query := by
  have hhost : '/' ∉ a.host.toList ++ '?' :: query.toList := by simp [a.host_slash, hslash]
  rw [title_of_host a.scheme_mem (by simp) hhost (Or.inl rfl)
    (by rw [a.toList_text_query, hpath, List.nil_append, List.append_nil])]
  refine String.toList_inj.mp ?_
  simp

/-- A text is cut before its first `?`. -/
theorem exists_cut (s : List Char) :
    ∃ more after, s = more ++ after ∧ '?' ∉ more ∧ (after = [] ∨ ∃ rest, after = '?' :: rest) := by
  by_cases hmem : '?' ∈ s
  · obtain ⟨more, rest, hs, hmore⟩ := List.eq_append_cons_of_mem hmem
    exact ⟨more, '?' :: rest, hs, hmore, Or.inr ⟨rest, rfl⟩⟩
  · exact ⟨s, [], (List.append_nil s).symm, hmem, Or.inl rfl⟩

/-- Behind a single slash the `?` is taken for the first character of the path. -/
theorem title_query_of_root (hpath : a.path.toList = ['/']) (hslash : '/' ∉ query.toList)
    (hline : '\n' ∉ query.toList) :
    ∃ more, title (a.text ++ "?" ++ query) = String.ofList (titleCase ('?' :: more)) := by
  obtain ⟨more, after, hcut, hmore, hafter⟩ := exists_cut query.toList
  rw [hcut, List.mem_append, not_or] at hslash hline
  have hsegment : IsLastSegment ('/' :: '?' :: more) ('?' :: more) :=
    ⟨List.cons_ne_nil _ _, by simp [hslash.1], [], [], by simp, by simp⟩
  have hlast := lastSegment?_eq_some hsegment
  rw [lastSegment?_slash] at hlast
  have hurl := a.toList_text_query query
  rw [hpath, hcut] at hurl
  refine ⟨more, ?_⟩
  rw [title_of_path a.scheme_mem a.host_ne a.host_slash (by decide) hmore hline.1 hafter hurl,
    hlast, Option.elim_some]

end Query

/-- The upper case of the `?` is not a text of several characters. -/
theorem head?_ne_of_mem_caseExpansions :
    ∀ row ∈ Text.caseExpansions, row.head? ≠ some '?'.toNat := by
  unfold Text.caseExpansions Text.CodeTable.rows
  simp only [List.flatMap_cons, List.flatMap_nil]
  -- the kernel is slow at reading a text, and quick at reading the list of its characters
  repeat rw [String.toList_ofList]
  decide +kernel

theorem shifted?_question : Text.CodeTable.shifted? '?'.toNat Text.caseRuns = none := by
  unfold Text.caseRuns Text.CodeTable.rows
  rw [List.flatMap_cons, String.toList_ofList]
  decide +kernel

theorem upperChars_question : upperChars '?' = ['?'] := by
  have hnone : Text.caseExpansions.find? (·.head? == some '?'.toNat) = none := by
    rw [List.find?_eq_none]
    intro row hrow
    simpa using head?_ne_of_mem_caseExpansions row hrow
  rw [upperChars, Text.upperCharsBy, shifted?_question, hnone]

/-- A question mark at the front of a segment gets into the title. -/
theorem query_mem_titleCase (more : List Char) : '?' ∈ titleCase ('?' :: more) := by
  have hspaced : spaced '?' = '?' := rfl
  rw [titleCase, List.map_cons, hspaced, capitalize, if_neg (by decide), if_pos rfl,
    upperChars_question]
  exact List.mem_append_left _ List.mem_cons_self

/-- **A query stays out of the name exactly behind a path that has more than its slash.** No query
changes what an address is named after if and only if its path has a character after its first
slash. If it has none, every query on one line without a slash changes the name. -/
theorem title_query_iff (a : PlainAddress) :
    ((∀ query : String, title (a.text ++ "?" ++ query) = title a.text) ↔ 2 ≤ a.path.length) ∧
    (a.path.length < 2 → ∀ query : String, '/' ∉ query.toList → '\n' ∉ query.toList →
      title (a.text ++ "?" ++ query) ≠ title a.text) := by
  have hchanged : a.path.length < 2 → ∀ query : String, '/' ∉ query.toList →
      '\n' ∉ query.toList → title (a.text ++ "?" ++ query) ≠ title a.text := by
    intro hshort query hslash hline heq
    rw [← String.length_toList] at hshort
    rcases a.path_cases with (hpath | hpath) | ⟨first, more, hpath⟩
    · rw [title_query_of_host hpath hslash, a.title_of_short_path (Or.inl hpath)] at heq
      have hlength := congrArg String.length heq
      simp only [String.length_append] at hlength
      have hmark : "?".length = 1 := rfl
      omega
    · obtain ⟨more, hname⟩ := title_query_of_root hpath hslash hline
      rw [hname, a.title_of_short_path (Or.inr hpath)] at heq
      refine a.host_query ?_
      rw [← heq, String.toList_ofList]
      exact query_mem_titleCase more
    · rw [hpath, List.length_cons, List.length_cons] at hshort
      omega
  refine ⟨⟨fun hkept => ?_, fun hlong => title_query_of_path hlong⟩, hchanged⟩
  by_contra hshort
  exact hchanged (Nat.lt_of_not_le hshort) "" (by simp) (by simp) (hkept "")

/-- A query with a whole address in it behind a path, and a short one behind a single slash. -/
theorem title_query_iff_address_in_query :
    let long : PlainAddress := {
      secure := true, host := "h", path := "/v1/", path_rooted := .inr ⟨_, rfl⟩ }
    let root : PlainAddress := {
      secure := true, host := "h", path := "/", path_rooted := .inr ⟨_, rfl⟩ }
    title (long.text ++ "?" ++ "next=http://a/b?c\n") = title long.text ∧
      title (root.text ++ "?" ++ "page=2") ≠ title root.text := by
  intro long root
  exact ⟨(title_query_iff long).1.mpr (by decide) _,
    (title_query_iff root).2 (by decide) "page=2" (by decide) (by decide)⟩

/-- **A query may be shown in a name.** The name of an address without a path changes with its
query. -/
theorem title_shows_query :
    let bare : PlainAddress := {
      secure := true, host := "api.example.com", path := "", path_rooted := .inl rfl }
    title bare.text = "api.example.com" ∧
      title (bare.text ++ "?" ++ "page=2") = "api.example.com?page=2" := by
  decide +kernel

end CallBook.Import
