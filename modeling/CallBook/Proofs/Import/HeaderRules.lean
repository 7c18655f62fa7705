import Mathlib.Data.List.Nodup
import CallBook.Import.HeaderRules

/-!
# What header rules do to the headers of a call

Headers are kept by their names, and a kept header stays as it was. While the headers to append are
gone through, the names that are there are remembered in lower case; a header is added if its name
is not among them, so that it never meets a key of the map. The headers added are therefore those to
append whose name no kept header has and which are the first of their name (`missing`,
`entries_appendMissing`).

Whether a header to append is the first of its name does not depend on the headers that are kept. So
in a second pass over the result the headers that were added are again the only ones that can be
added, and each of them is either kept by the lists or added again at the end
(`entries_apply_apply`).

Main results: `apply_keeps_then_adds`, `apply_apply_perm`.
-/

namespace CallBook.HeaderRules

open Text (lowerAscii)

variable {rules : HeaderRules} {headers : Headers} {name : String}

/-! ## The lists -/

/-- The lists allow a header of this name, up to case: the names to include have it unless there are
none, and the names to exclude do not. -/
structure Allows (rules : HeaderRules) (name : String) : Prop where
  included : ∀ names, rules.include? = some names → names ≠ [] →
    ∃ n ∈ names, lowerAscii n = lowerAscii name
  excluded : ∀ names, rules.exclude? = some names → ∀ n ∈ names, lowerAscii n ≠ lowerAscii name

/-- A name is listed if some spelling of it is. -/
theorem listed_iff {names : List String} :
    listed names name = true ↔ ∃ n ∈ names, lowerAscii n = lowerAscii name := by
  rw [listed, List.contains_iff_mem, List.mem_map]

/-- The test keeps exactly the names that the rules allow. -/
theorem keeps_iff : rules.keeps name = true ↔ rules.Allows name := by
  rw [keeps, Bool.and_eq_true]
  constructor
  · rintro ⟨hincluded, hexcluded⟩
    refine ⟨fun names hnames hne => ?_, fun names hnames n hn he => ?_⟩
    · rw [hnames] at hincluded
      cases names with
      | nil => exact absurd rfl hne
      | cons n more => exact listed_iff.mp hincluded
    · rw [hnames] at hexcluded
      exact absurd (listed_iff.mpr ⟨n, hn, he⟩) (by simpa using hexcluded)
  · rintro ⟨hincluded, hexcluded⟩
    constructor
    · split
      · rfl
      · rfl
      · next names hne hnames => exact listed_iff.mpr (hincluded names hnames hne)
    · split
      · rfl
      · next names hnames =>
        rw [Bool.not_eq_true', ← Bool.not_eq_true, listed_iff]
        rintro ⟨n, hn, he⟩
        exact hexcluded names hnames n hn he

instance : Decidable (rules.Allows name) := decidable_of_iff _ keeps_iff

/-- Names that are the same up to case are treated alike. -/
theorem keeps_congr {other : String} (h : lowerAscii name = lowerAscii other) :
    rules.keeps name = rules.keeps other := by
  simp only [keeps, listed, h]

/-! ## Headers that are added -/

/-- A header of the list has this name, up to case. -/
def Bears (headers : List (String × String)) (name : String) : Prop :=
  ∃ p ∈ headers, lowerAscii p.1 = lowerAscii name

instance {headers : List (String × String)} : Decidable (Bears headers name) :=
  inferInstanceAs (Decidable (∃ p ∈ headers, lowerAscii p.1 = lowerAscii name))

/-- The headers of a list whose names are not present, each the first of its name. -/
def missing (present : List String) (headers : List (String × String)) : List (String × String) :=
  headers.filter fun p =>
    !present.contains (lowerAscii p.1)
      && headers.find? (fun q => lowerAscii q.1 == lowerAscii p.1) == some p

/-- What is missing behind a header whose name is present by then. -/
theorem missing_of_tail {present known : List String} {p : String × String}
    {more : List (String × String)} (hp : p.1 ∉ Entries.keys more)
    (hknown : ∀ n, n ∈ known ↔ n = lowerAscii p.1 ∨ n ∈ present) :
    (more.filter fun q =>
      !present.contains (lowerAscii q.1)
        && (p :: more).find? (fun r => lowerAscii r.1 == lowerAscii q.1) == some q)
      = missing known more := by
  refine List.filter_congr fun q hq => ?_
  by_cases hsame : lowerAscii p.1 = lowerAscii q.1
  · -- the header in front is the first of this name, and is another one
    have hne : p ≠ q := fun he => hp (he ▸ List.mem_map_of_mem hq)
    have hmem : lowerAscii q.1 ∈ known := (hknown _).mpr (Or.inl hsame.symm)
    rw [List.find?_cons_of_pos (by simpa using hsame), List.contains_iff_mem.mpr hmem]
    simp [hne]
  · have hmem : known.contains (lowerAscii q.1) = present.contains (lowerAscii q.1) := by
      rw [Bool.eq_iff_iff, List.contains_iff_mem, List.contains_iff_mem, hknown]
      exact or_iff_right (Ne.symm hsame)
    rw [List.find?_cons_of_neg (by simpa using hsame), hmem]

/-- A header whose name is not present is missing, and its name is present from then on. -/
theorem missing_cons {present : List String} {p : String × String}
    {more : List (String × String)} (hp : p.1 ∉ Entries.keys more) :
    missing present (p :: more)
      = if lowerAscii p.1 ∈ present then missing present more
        else p :: missing (lowerAscii p.1 :: present) more := by
  have hfirst : (p :: more).find? (fun q => lowerAscii q.1 == lowerAscii p.1) = some p :=
    List.find?_cons_of_pos (by simp)
  rw [missing, List.filter_cons, hfirst]
  split
  · next hmissing =>
    rw [if_neg (by simpa using hmissing), missing_of_tail hp fun n => List.mem_cons]
  · next hpresent =>
    have hmem : lowerAscii p.1 ∈ present := by simpa using hpresent
    rw [if_pos hmem, missing_of_tail hp fun n => ⟨Or.inr, fun h => h.elim (· ▸ hmem) id⟩]

/-- The headers that are missing are put behind those that are there. -/
theorem entries_appendMissing {present : List String} {more : List (String × String)}
    (hmore : (Entries.keys more).Nodup) (h : ∀ key ∈ headers.keys, lowerAscii key ∈ present) :
    (appendMissing headers present more).entries = headers.entries ++ missing present more := by
  induction more generalizing headers present with
  | nil => exact (List.append_nil _).symm
  | cons p more ih =>
    obtain ⟨key, value⟩ := p
    rw [Entries.keys_cons, List.nodup_cons] at hmore
    rw [appendMissing, missing_cons hmore.1]
    by_cases hpresent : lowerAscii key ∈ present
    · rw [if_pos (List.contains_iff_mem.mpr hpresent), if_pos hpresent, ih hmore.2 h]
    · have hnew : key ∉ headers.keys := fun hmem => hpresent (h key hmem)
      have hkeys : ∀ k ∈ (headers.insert key value).keys,
          lowerAscii k ∈ lowerAscii key :: present := by
        intro k hk
        rcases Entries.mem_keys_insert.mp hk with rfl | hk
        · exact List.mem_cons_self
        · exact List.mem_cons_of_mem _ (h k hk)
      rw [if_neg (by simpa using hpresent), if_neg hpresent, ih hmore.2 hkeys,
        OrderedMap.entries_insert, Entries.insert_of_not_mem hnew, List.append_assoc,
        List.singleton_append]

/-- What the rules keep of the headers. -/
def kept (rules : HeaderRules) (headers : Headers) : List (String × String) :=
  headers.entries.filter fun p => rules.keeps p.1

/-- What the rules add to headers. -/
def added (rules : HeaderRules) (headers : List (String × String)) : List (String × String) :=
  missing (headers.map fun p => lowerAscii p.1) rules.append.entries

/-- The rules keep headers and then add some. -/
theorem entries_apply (rules : HeaderRules) (headers : Headers) :
    (rules.apply headers).entries = rules.kept headers ++ rules.added (rules.kept headers) := by
  rw [apply, entries_appendMissing rules.append.nodup]
  · rw [added, OrderedMap.keys, Entries.keys, List.map_map]
    rfl
  · intro key hkey
    exact List.mem_map_of_mem hkey

/-- A header is added if it is the first of its name in the rules and the call has none of that
name. -/
theorem mem_added_iff {headers : List (String × String)} {p : String × String} :
    p ∈ rules.added headers ↔ p ∈ rules.append.entries ∧ ¬ Bears headers p.1 ∧
      rules.append.entries.find? (fun q => lowerAscii q.1 == lowerAscii p.1) = some p := by
  rw [added, missing, List.mem_filter]
  simp [Bears]

/-- A header of a list is the first of its name if no earlier one has it. -/
theorem find?_name_iff {before after : List (String × String)} {p : String × String}
    (hn : (Entries.keys (before ++ p :: after)).Nodup) :
    (before ++ p :: after).find? (fun q => lowerAscii q.1 == lowerAscii p.1) = some p ↔
      ¬ Bears before p.1 := by
  rw [List.find?_append, List.find?_cons_of_pos (by simp), Option.or_eq_some_iff]
  constructor
  · rintro (hfound | ⟨hnone, -⟩) ⟨q, hq, he⟩
    · have hmem := List.mem_map_of_mem (f := Prod.fst) (List.mem_of_find?_eq_some hfound)
      rw [Entries.keys, List.map_append] at hn
      exact List.disjoint_of_nodup_append hn hmem (List.mem_map_of_mem List.mem_cons_self)
    · exact List.find?_eq_none.mp hnone q hq (by simpa using he)
  · intro hfree
    refine Or.inr ⟨List.find?_eq_none.mpr fun q hq hsame => hfree ⟨q, hq, ?_⟩, rfl⟩
    simpa using hsame

/-- **The rules keep what their lists allow and add what is missing.** The headers that come out are
those that the lists allow, in their order and as they were, and behind them, in their order, those
headers to append whose name no header that was kept and no earlier header to append has, up to
case. So what is added never takes the place of a header that was kept, nor stands beside it in
another spelling. -/
theorem apply_keeps_then_adds (rules : HeaderRules) (headers : Headers) :
    let allowed := headers.entries.filter fun p => rules.Allows p.1
    ∃ added : List (String × String), (rules.apply headers).entries = allowed ++ added ∧
      added.Sublist rules.append.entries ∧
      (∀ before p after, rules.append.entries = before ++ p :: after →
        (p ∈ added ↔ ¬ Bears allowed p.1 ∧ ¬ Bears before p.1)) ∧
      ∀ p ∈ added, ¬ Bears allowed p.1 := by
  intro allowed
  have hkept : rules.kept headers = allowed := by
    refine List.filter_congr fun p _ => ?_
    rw [Bool.eq_iff_iff, keeps_iff, decide_eq_true_iff]
  refine ⟨rules.added allowed, ?_, List.filter_sublist, ?_, ?_⟩
  · rw [entries_apply, hkept]
  · intro before p after happend
    have hn := rules.append.nodup
    rw [happend] at hn
    rw [mem_added_iff, happend, find?_name_iff hn]
    exact and_iff_right (List.mem_append_right before List.mem_cons_self)
  · intro p hp
    exact (mem_added_iff.mp hp).2.1

/-- An excluded name comes back, in the first of two spellings, and a name that was kept twice is
not added a third time. -/
theorem apply_keeps_then_adds_in_spellings :
    let rules : HeaderRules := {
      include? := some ["ACCEPT", "X-B"]
      exclude? := some ["x-b"]
      append := .ofList [("X-B", "1"), ("x-b", "2"), ("AcCept", "3")] }
    let headers : Headers := .ofList [("Accept", "a"), ("X-b", "b"), ("accept", "c"), ("Host", "d")]
    ∃ added : List (String × String),
      (rules.apply headers).entries = [("Accept", "a"), ("accept", "c")] ++ added ∧
        ("X-B", "1") ∈ added ∧ ("x-b", "2") ∉ added ∧ ("AcCept", "3") ∉ added := by
  intro rules headers
  obtain ⟨added, hentries, -, hmissing, -⟩ := apply_keeps_then_adds rules headers
  have hallowed : (headers.entries.filter fun p => rules.Allows p.1)
      = [("Accept", "a"), ("accept", "c")] := by decide
  rw [hallowed] at hentries hmissing
  refine ⟨added, hentries, (hmissing [] _ _ rfl).mpr (by decide), ?_, ?_⟩
  · rw [hmissing [("X-B", "1")] _ _ rfl]
    decide
  · rw [hmissing [("X-B", "1"), ("x-b", "2")] _ _ rfl]
    decide

/-! ## A second pass -/

theorem contains_names {headers : List (String × String)} :
    (headers.map fun p => lowerAscii p.1).contains (lowerAscii name)
      = decide (Bears headers name) := by
  rw [Bool.eq_iff_iff, List.contains_iff_mem, List.mem_map, decide_eq_true_iff]
  rfl

theorem bears_append {headers more : List (String × String)} :
    Bears (headers ++ more) name ↔ Bears headers name ∨ Bears more name := by
  simp [Bears, or_and_right, exists_or]

/-- What is added beside more headers is what is added without them, unless they have the name. -/
theorem added_append (rules : HeaderRules) (headers more : List (String × String)) :
    rules.added (headers ++ more) = (rules.added headers).filter fun p => !Bears more p.1 := by
  rw [added, added, missing, missing, List.filter_filter]
  refine List.filter_congr fun p _ => ?_
  rw [contains_names, contains_names]
  by_cases hmore : Bears more p.1 <;> simp [bears_append, hmore]

/-- The second pass keeps what was kept and those added headers that the lists allow, and adds the
others again behind them. -/
theorem entries_apply_apply (rules : HeaderRules) (headers : Headers) :
    let added := rules.added (rules.kept headers)
    (rules.apply (rules.apply headers)).entries
      = rules.kept headers
        ++ (added.filter (fun p => rules.keeps p.1) ++ added.filter fun p => !rules.keeps p.1) := by
  intro added
  have hkept : rules.kept (rules.apply headers)
      = rules.kept headers ++ added.filter fun p => rules.keeps p.1 := by
    rw [kept, entries_apply, List.filter_append, kept, List.filter_filter]
    simp only [Bool.and_self]
    rfl
  have hadded : rules.added (rules.kept (rules.apply headers))
      = added.filter fun p => !rules.keeps p.1 := by
    rw [hkept, added_append]
    refine List.filter_congr fun p hp => congrArg not ?_
    rw [Bool.eq_iff_iff, decide_eq_true_iff]
    constructor
    · -- a header of the same name that was kept is one that the lists allow
      rintro ⟨q, hq, he⟩
      rw [← keeps_congr he]
      exact (List.mem_filter.mp hq).2
    · intro hkeeps
      exact ⟨p, List.mem_filter.mpr ⟨hp, hkeeps⟩, rfl⟩
  rw [entries_apply, hadded, hkept, List.append_assoc]

/-- **A second pass changes nothing but the order.** Applying the rules to what they made gives the
same headers with the same values. It gives them in the same order if the lists allow every header
to append that is there after the first pass. -/
theorem apply_apply_perm (rules : HeaderRules) (headers : Headers) :
    (rules.apply (rules.apply headers)).entries.Perm (rules.apply headers).entries ∧
      ((∀ p ∈ rules.append.entries, p ∈ (rules.apply headers).entries → rules.Allows p.1) →
        rules.apply (rules.apply headers) = rules.apply headers) := by
  have htwice := entries_apply_apply rules headers
  have honce := entries_apply rules headers
  constructor
  · rw [htwice, honce]
    exact (List.filter_append_perm _ _).append_left _
  · intro hallowed
    have hkeeps : ∀ p ∈ rules.added (rules.kept headers), rules.keeps p.1 = true := by
      intro p hp
      refine keeps_iff.mpr (hallowed p (mem_added_iff.mp hp).1 ?_)
      rw [honce]
      exact List.mem_append_right _ hp
    have hdropped : (rules.added (rules.kept headers)).filter (fun p => !rules.keeps p.1) = [] := by
      rw [List.filter_eq_nil_iff]
      intro p hp
      simp [hkeeps p hp]
    refine OrderedMap.ext ?_
    rw [htwice, honce, hdropped, List.append_nil, List.filter_eq_self.mpr hkeeps]

/-- A header that is added although the lists drop it moves behind another one in the second pass;
headers that the lists allow stay where they are. -/
theorem apply_apply_perm_of_dropped :
    let append : Headers := .ofList [("X-A", "1"), ("Accept", "2"), ("accept", "3")]
    let dropping : HeaderRules := { exclude? := some ["x-a"], append }
    let keeping : HeaderRules := { append }
    let headers : Headers := .ofList [("Host", "h"), ("x-a", "0")]
    (dropping.apply headers).entries = [("Host", "h"), ("X-A", "1"), ("Accept", "2")] ∧
      (dropping.apply (dropping.apply headers)).entries.Perm (dropping.apply headers).entries ∧
      dropping.apply (dropping.apply headers) ≠ dropping.apply headers ∧
      keeping.apply (keeping.apply headers) = keeping.apply headers := by
  intro append dropping keeping headers
  refine ⟨by decide, (apply_apply_perm dropping headers).1, by decide, ?_⟩
  refine (apply_apply_perm keeping headers).2 fun p _ _ => ⟨?_, ?_⟩
  · intro names hnames
    cases hnames
  · intro names hnames
    cases hnames

end CallBook.HeaderRules
