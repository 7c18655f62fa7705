import CallBook.Import.Title

/-!
# Where an address is found in a text

The shape of an address is searched for anywhere in a text. For an address by itself this comes to
what one would say of its parts. The shape of a host fits at the head of the text, where it takes
the text up to the next slash (`host?_append`). The shape of a path either fits there too
(`path?_append`), or the address has no more than two slashes before its last character, so that it
fits nowhere (`firstMatch_path?_eq_none`). So the name comes from what the shapes take at the head
(`title_of_path`, `title_of_host`).
-/

namespace CallBook.Import

/-! ## The first place that fits -/

section FirstMatch

variable {find? : List Char → Option (List Char)} {s found : List Char}

/-- A search that succeeds at the front goes no further. -/
theorem firstMatch_of_head (h : find? s = some found) : firstMatch find? s = some found := by
  cases s with
  | nil => exact h
  | cons c rest => rw [firstMatch, h, Option.some_or]

/-- What is found fits at some place. -/
theorem exists_of_firstMatch (h : firstMatch find? s = some found) :
    ∃ t, t <:+ s ∧ find? t = some found := by
  induction s with
  | nil => exact ⟨[], List.suffix_refl [], h⟩
  | cons c rest ih =>
    rw [firstMatch] at h
    rcases Option.or_eq_some_iff.mp h with hhead | ⟨-, hrest⟩
    · exact ⟨c :: rest, List.suffix_refl _, hhead⟩
    · obtain ⟨t, ht, hfound⟩ := ih hrest
      exact ⟨t, ht.trans (List.suffix_cons c rest), hfound⟩

/-- A search that succeeds nowhere finds nothing. -/
theorem firstMatch_eq_none (h : ∀ t, t <:+ s → find? t = none) : firstMatch find? s = none := by
  rw [Option.eq_none_iff_forall_ne_some]
  intro found hfound
  obtain ⟨t, ht, hsome⟩ := exists_of_firstMatch hfound
  rw [h t ht] at hsome
  cases hsome

end FirstMatch

/-! ## Addresses -/

/-- What an address begins with. -/
def schemes : List (List Char) := ["http://".toList, "https://".toList]

theorem afterScheme?_append {scheme : List Char} (h : scheme ∈ schemes) (rest : List Char) :
    afterScheme? (scheme ++ rest) = some rest := by
  simp only [schemes, List.mem_cons, List.not_mem_nil, or_false] at h
  rcases h with rfl | rfl <;> rfl

/-- What is left behind a scheme has one before it. -/
theorem exists_of_afterScheme? {s rest : List Char} (h : afterScheme? s = some rest) :
    ∃ scheme ∈ schemes, s = scheme ++ rest := by
  rw [afterScheme?] at h
  split at h
  · cases h
  · next more hmore =>
    rw [Text.eq_append_of_dropPrefix? hmore]
    split at h
    · next hs =>
      obtain ⟨secure, rfl⟩ := Text.beginsWith_iff.mp hs
      rw [List.singleton_append, List.drop_one, List.tail_cons] at h
      rw [Text.eq_append_of_dropPrefix? h]
      exact ⟨"https://".toList, by decide, rfl⟩
    · rw [Text.eq_append_of_dropPrefix? h]
      exact ⟨"http://".toList, by decide, rfl⟩

theorem count_slash_of_mem_schemes {scheme : List Char} (h : scheme ∈ schemes) :
    scheme.count '/' = 2 := by
  revert scheme
  decide

section Address

variable {scheme host rest : List Char}

/-- The host of an address ends at the next slash. -/
theorem host?_append (hscheme : scheme ∈ schemes) (hhost : host ≠ []) (hslash : '/' ∉ host)
    (hrest : rest = [] ∨ ∃ path, rest = '/' :: path) :
    host? (scheme ++ (host ++ rest)) = some (host, rest) := by
  obtain ⟨htake, hdrop⟩ := Text.span_ne_append hslash hrest
  rw [host?, afterScheme?_append hscheme]
  dsimp only
  rw [htake, hdrop, if_neg (by simpa using hhost)]

/-- Behind a scheme and a host the path is found. -/
theorem path?_append (hscheme : scheme ∈ schemes) (hhost : host ≠ []) (hslash : '/' ∉ host)
    (path : List Char) : path? (scheme ++ (host ++ '/' :: path)) = pathText? path := by
  rw [path?, host?_append hscheme hhost hslash (Or.inr ⟨path, rfl⟩)]
  rfl

/-- A host that is found is not empty, and stands behind a scheme. -/
theorem exists_of_host? {s : List Char} (h : host? s = some (host, rest)) :
    host ≠ [] ∧ ∃ scheme ∈ schemes, s = scheme ++ (host ++ rest) := by
  rw [host?] at h
  split at h
  · cases h
  · next after hafter =>
    obtain ⟨scheme, hscheme, rfl⟩ := exists_of_afterScheme? hafter
    dsimp only at h
    split at h
    · cases h
    · next hhost =>
      cases h
      rw [List.takeWhile_append_dropWhile]
      exact ⟨by simpa using hhost, scheme, hscheme, rfl⟩

/-- The host of an address at the head of a text is the first one found. -/
theorem firstMatch_host?_of_head {s : List Char} (h : host? s = some (host, rest)) :
    firstMatch (fun t => (host? t).map Prod.fst) s = some host :=
  firstMatch_of_head (by rw [h]; rfl)

/-- A path that is found stands behind a scheme and a host, and is not empty. -/
theorem exists_of_path? {s path : List Char} (h : path? s = some path) :
    ∃ scheme ∈ schemes, ∃ host rest, s = scheme ++ (host ++ '/' :: rest) ∧ rest ≠ [] := by
  rw [path?] at h
  split at h
  · next host rest hhost =>
    obtain ⟨-, scheme, hscheme, rfl⟩ := exists_of_host? hhost
    refine ⟨scheme, hscheme, host, rest, rfl, ?_⟩
    rintro rfl
    cases h
  · cases h

/-- The shape of a path takes two slashes before the host, one behind it, and something more. -/
theorem three_le_count_of_path? {s path : List Char} (h : path? s = some path) :
    3 ≤ s.dropLast.count '/' := by
  obtain ⟨scheme, hscheme, host, rest, rfl, hrest⟩ := exists_of_path? h
  have hlast : (scheme ++ (host ++ '/' :: rest)).dropLast
      = scheme ++ (host ++ '/' :: rest.dropLast) := by
    rw [List.dropLast_append_of_ne_nil (by simp), List.dropLast_append_of_ne_nil (by simp),
      List.dropLast_cons_of_ne_nil hrest]
  rw [hlast, List.count_append, List.count_append, List.count_cons_self,
    count_slash_of_mem_schemes hscheme]
  omega

/-- Where fewer than three slashes have something behind them, no path is found. -/
theorem firstMatch_path?_eq_none {s : List Char} (h : s.dropLast.count '/' < 3) :
    firstMatch path? s = none := by
  refine firstMatch_eq_none fun t ht => ?_
  rw [Option.eq_none_iff_forall_ne_some]
  intro path hpath
  obtain ⟨before, rfl⟩ := ht
  have hcount := three_le_count_of_path? hpath
  have hne : t ≠ [] := by
    rintro rfl
    cases hpath
  rw [List.dropLast_append_of_ne_nil hne, List.count_append] at h
  omega

end Address

/-! ## Names of addresses -/

/-- A path ends at its end or before a `?`, but has one character in any case. -/
theorem pathText?_append {first : Char} {more after : List Char} (hfirst : first ≠ '\n')
    (hquery : '?' ∉ more) (hline : '\n' ∉ more)
    (hafter : after = [] ∨ ∃ query, after = '?' :: query) :
    pathText? (first :: (more ++ after)) = some (first :: more) := by
  obtain ⟨htake, -⟩ := Text.span_ne_append hquery hafter
  rw [pathText?, htake, if_neg (by simp [hfirst, hline])]

section Name

variable {scheme host : List Char} {url : String}

/-- An address with a path is named after its path, or else after its host. -/
theorem title_of_path (hscheme : scheme ∈ schemes) (hhost : host ≠ []) (hslash : '/' ∉ host)
    {first : Char} {more after : List Char} (hfirst : first ≠ '\n') (hquery : '?' ∉ more)
    (hline : '\n' ∉ more) (hafter : after = [] ∨ ∃ query, after = '?' :: query)
    (hurl : url.toList = scheme ++ (host ++ '/' :: first :: (more ++ after))) :
    title url = String.ofList ((lastSegment? (first :: more)).elim host titleCase) := by
  have hpath : path? url.toList = some (first :: more) := by
    rw [hurl, path?_append hscheme hhost hslash, pathText?_append hfirst hquery hline hafter]
  have hhost? : host? url.toList = some (host, '/' :: first :: (more ++ after)) := by
    rw [hurl, host?_append hscheme hhost hslash (Or.inr ⟨_, rfl⟩)]
  rw [title, firstMatch_of_head hpath, Option.bind_some]
  cases lastSegment? (first :: more) with
  | some segment => rfl
  | none =>
    rw [firstMatch_host?_of_head hhost?]
    rfl

/-- An address without a path, or with no more than a slash for it, is named after its host. -/
theorem title_of_host (hscheme : scheme ∈ schemes) (hhost : host ≠ []) (hslash : '/' ∉ host)
    {rest : List Char} (hrest : rest = [] ∨ rest = ['/'])
    (hurl : url.toList = scheme ++ (host ++ rest)) : title url = String.ofList host := by
  have hhost? : host? url.toList = some (host, rest) := by
    rw [hurl, host?_append hscheme hhost hslash (hrest.imp_right fun h => ⟨[], h⟩)]
  have hpath : firstMatch path? url.toList = none := by
    refine firstMatch_path?_eq_none ?_
    have hcount : (scheme ++ host).count '/' = 2 := by
      rw [List.count_append, count_slash_of_mem_schemes hscheme, List.count_eq_zero.mpr hslash]
    rw [hurl, ← List.append_assoc]
    rcases hrest with rfl | rfl
    · rw [List.append_nil]
      exact Nat.lt_succ_of_le (hcount ▸ (List.dropLast_sublist _).count_le '/')
    · rw [List.dropLast_concat]
      omega
  rw [title, hpath, firstMatch_host?_of_head hhost?]
  rfl

end Name

/-! ## Addresses without a query -/

/-- An address without a query: a scheme, a host, and a path that is empty or begins with a slash,
all on one line. -/
structure PlainAddress where
  /-- The scheme is `https`. -/
  secure : Bool
  /-- What stands before the path. -/
  host : String
  /-- The path with the slash that it begins with. -/
  path : String
  host_ne : host.toList ≠ [] := by decide
  host_slash : '/' ∉ host.toList := by decide
  host_query : '?' ∉ host.toList := by decide
  host_line : '\n' ∉ host.toList := by decide
  path_rooted : path.toList = [] ∨ ∃ rest, path.toList = '/' :: rest
  path_query : '?' ∉ path.toList := by decide
  path_line : '\n' ∉ path.toList := by decide

namespace PlainAddress

/-- The scheme with what separates it from the host. -/
def scheme (a : PlainAddress) : String := if a.secure then "https://" else "http://"

/-- The address as it is written. -/
def text (a : PlainAddress) : String := a.scheme ++ a.host ++ a.path

theorem scheme_mem (a : PlainAddress) : a.scheme.toList ∈ schemes := by
  rw [scheme]
  split <;> decide

/-- The text of an address, part by part. -/
theorem toList_text (a : PlainAddress) :
    a.text.toList = a.scheme.toList ++ (a.host.toList ++ a.path.toList) := by
  rw [text, String.toList_append, String.toList_append, List.append_assoc]

/-- What a path can be: nothing or a slash, or more than a slash. -/
theorem path_cases (a : PlainAddress) :
    (a.path.toList = [] ∨ a.path.toList = ['/']) ∨
      ∃ first more, a.path.toList = '/' :: first :: more := by
  rcases a.path_rooted with hempty | ⟨rest, hrest⟩
  · exact Or.inl (Or.inl hempty)
  · cases rest with
    | nil => exact Or.inl (Or.inr hrest)
    | cons first more => exact Or.inr ⟨first, more, hrest⟩

/-- With at most a slash for its path an address is named after its host. -/
theorem title_of_short_path (a : PlainAddress) (h : a.path.toList = [] ∨ a.path.toList = ['/']) :
    title a.text = a.host := by
  rw [title_of_host a.scheme_mem a.host_ne a.host_slash h a.toList_text, String.ofList_toList]

/-- With more than a slash for its path an address is named after the path, or after its host if the
path has no segment, and a query behind it makes no difference. -/
theorem title_of_long_path (a : PlainAddress) {first : Char} {more after : List Char}
    (hpath : a.path.toList = '/' :: first :: more)
    (hafter : after = [] ∨ ∃ query, after = '?' :: query) {url : String}
    (hurl : url.toList = a.text.toList ++ after) :
    title url = String.ofList ((lastSegment? (first :: more)).elim a.host.toList titleCase) := by
  have hquery := a.path_query
  have hline := a.path_line
  rw [hpath, List.mem_cons, List.mem_cons, not_or, not_or] at hquery hline
  refine title_of_path a.scheme_mem a.host_ne a.host_slash (Ne.symm hline.2.1) hquery.2.2
    hline.2.2 hafter ?_
  rw [hurl, a.toList_text, hpath]
  simp

end PlainAddress

end CallBook.Import
