import Mathlib.Algebra.GroupWithZero.Nat
import Mathlib.Algebra.Order.BigOperators.Group.List
import CallBook.Proofs.OrderedMap
import CallBook.Report.Lines

/-!
# When a report shows what goes out

The engine resolves the headers and fields of a call into maps, and a report resolves them once
more, pair by pair. In a map a name that comes twice counts once, so that the two part ways where
the names of two pairs become equal: the report then shows a value that nobody is sent
(`shows_unsent_header`).

An `echo` is the report as it would be written from the call that the engine has resolved. A report
is an echo exactly if the resolved names are different from each other (`text_eq_echo_iff`). That
it is one then is clear, as nothing is merged. That it is none otherwise is a matter of length:
merging leaves out a line and adds nothing (`sum_insertAll_lt`), so that whatever line feeds the
names and values may hold, the text of an echo is shorter.
-/

namespace CallBook

/-! ## Merging makes a list of pairs lighter -/

namespace Entries

variable {α : Type} {w : String × α → Nat}

/-- A new entry adds its weight, less that of the one that it replaces. -/
theorem sum_insert_le (key : String) (value : α) (m : List (String × α)) :
    ((insert key value m).map w).sum ≤ (m.map w).sum + w (key, value) := by
  induction m with
  | nil => simp [insert]
  | cons p m ih =>
    obtain ⟨k, old⟩ := p
    rw [insert]
    split
    · simp only [List.map_cons, List.sum_cons]
      omega
    · simp only [List.map_cons, List.sum_cons]
      omega

/-- An insertion at a key that is there weighs less than its pair. -/
theorem sum_insert_lt (hw : ∀ p, 0 < w p) {key : String} {m : List (String × α)}
    (h : key ∈ keys m) (value : α) :
    ((insert key value m).map w).sum < (m.map w).sum + w (key, value) := by
  induction m with
  | nil => cases h
  | cons p m ih =>
    obtain ⟨k, old⟩ := p
    rw [insert]
    by_cases hk : k = key
    · rw [if_pos hk]
      have hold := hw (k, old)
      simp only [List.map_cons, List.sum_cons]
      omega
    · rw [if_neg hk]
      have hm : key ∈ keys m := (List.mem_cons.mp h).resolve_left (Ne.symm hk)
      have hrest := ih hm
      simp only [List.map_cons, List.sum_cons]
      omega

/-- Insertions weigh no more than their pairs. -/
theorem sum_insertAll_le (m pairs : List (String × α)) :
    ((insertAll m pairs).map w).sum ≤ (m.map w).sum + (pairs.map w).sum := by
  induction pairs generalizing m with
  | nil => simp [insertAll]
  | cons p pairs ih =>
    obtain ⟨k, value⟩ := p
    have hfirst := sum_insert_le (w := w) k value m
    have hrest := ih (insert k value m)
    rw [List.map_cons, List.sum_cons]
    show ((insertAll (insert k value m) pairs).map w).sum ≤ _
    omega

/-- Pairs of which two have one key weigh less once they are merged. -/
theorem sum_insertAll_lt (hw : ∀ p, 0 < w p) {m pairs : List (String × α)}
    (hm : (keys m).Nodup) (h : ¬ (keys m ++ keys pairs).Nodup) :
    ((insertAll m pairs).map w).sum < (m.map w).sum + (pairs.map w).sum := by
  induction pairs generalizing m with
  | nil =>
    rw [keys_nil, List.append_nil] at h
    exact absurd hm h
  | cons p pairs ih =>
    obtain ⟨k, value⟩ := p
    rw [List.map_cons, List.sum_cons]
    show ((insertAll (insert k value m) pairs).map w).sum < _
    by_cases hk : k ∈ keys m
    · -- the pair comes in the place of an earlier one, which is lost
      have hfirst := sum_insert_lt hw hk value
      have hrest := sum_insertAll_le (w := w) (insert k value m) pairs
      omega
    · have hfirst := sum_insert_le (w := w) k value m
      have hlater : ¬ (keys (insert k value m) ++ keys pairs).Nodup := by
        rw [keys_insert_of_not_mem hk, List.append_assoc]
        exact h
      have hrest := ih (nodup_keys_insert hm k value) hlater
      omega

end Entries

namespace Report

/-! ## Echoes -/

/-- One line for each pair of a map. -/
def pairLines (m : OrderedMap String) : List String := m.entries.map fun p => pairLine p.1 p.2

/-- The section on headers, as they go out. -/
def sentHeaderLines (headers : OrderedMap String) : List String :=
  if headers.isEmpty then ["(No headers)"] else pairLines headers

/-- The section on the fields of a body, as they go out. -/
def sentBodyLines (r : ResolvedRequest) : List String :=
  if !r.method.carriesBody then ["(No body)"]
  else if r.body.isEmpty then ["\x7b\x7d"]
  else pairLines r.body

/-- The texts of a report around its sections on headers and body. -/
def linesAround (headers body : List String) (request : Request) (environment : Environment)
    (result : CallResult) : List String :=
  [rule, "API CALL OUTPUT", rule, "", pairLine "Environment" environment.name,
    pairLine "Name" request.name, pairLine "URL" (Template.fill environment.vars request.url),
    pairLine "Method" request.method.verb, ""]
  ++ heading "ENVIRONMENT VARIABLES" ++ variableLines environment.vars ++ [""]
  ++ heading "HEADERS" ++ headers ++ [""]
  ++ heading "BODY" ++ body ++ [""]
  ++ heading "RESPONSE" ++ responseLines result ++ ["", rule]

/-- The report of a call with the headers and fields of the call as the engine resolves it. -/
def echo (request : Request) (environment : Environment) (result : CallResult) : String :=
  let resolved := request.resolve environment.vars
  unlines (linesAround (sentHeaderLines resolved.headers) (sentBodyLines resolved)
    request environment result)

/-- The lines of a report are those around the headers and the body, and these. -/
theorem lines_eq_linesAround (request : Request) (environment : Environment)
    (result : CallResult) :
    lines request environment result
      = linesAround (headerLines environment.vars request.headers)
          (bodyLines environment.vars request) request environment result := rfl

/-! ## Sections -/

/-- The names of a map stay different from each other when they are resolved. -/
def Distinct (vars : Variables) (m : OrderedMap String) : Prop :=
  (m.keys.map (Template.fill vars)).Nodup

/-- The pairs of a map, each resolved on its own. -/
def filled (vars : Variables) (m : OrderedMap String) : List (String × String) :=
  m.entries.map fun p => (Template.fill vars p.1, Template.fill vars p.2)

/-- The filled names are distinct exactly if no key of the filled pairs is repeated. -/
theorem distinct_iff {vars : Variables} {m : OrderedMap String} :
    Distinct vars m ↔ (Entries.keys (filled vars m)).Nodup := by
  rw [Distinct, OrderedMap.keys, Entries.keys, Entries.keys, filled, List.map_map, List.map_map]
  rfl

/-- The lines of a report are made of the filled pairs, one by one. -/
theorem resolvedLines_eq (vars : Variables) (m : OrderedMap String) :
    resolvedLines vars m = (filled vars m).map fun p => pairLine p.1 p.2 := by
  rw [resolvedLines, filled, List.map_map]
  rfl

theorem entries_fillMap (vars : Variables) (m : OrderedMap String) :
    (Template.fillMap vars m).entries = Entries.insertAll [] (filled vars m) := rfl

/-- Filling leaves no map empty that was not. -/
theorem isEmpty_fillMap (vars : Variables) (m : OrderedMap String) :
    (Template.fillMap vars m).isEmpty = m.isEmpty := by
  rw [OrderedMap.isEmpty, OrderedMap.isEmpty, entries_fillMap, filled]
  cases m.entries with
  | nil => rfl
  | cons p more =>
    cases hentries : Entries.insertAll [] ((p :: more).map fun p =>
      (Template.fill vars p.1, Template.fill vars p.2)) with
    | cons q rest => rfl
    | nil =>
      -- the first name has its entry for good
      have hkeys := Entries.keys_insertAll_nil ((p :: more).map fun p =>
        (Template.fill vars p.1, Template.fill vars p.2))
      rw [hentries, List.map_cons, Entries.keys_cons, List.eraseDups_cons] at hkeys
      cases hkeys

/-- How long the text of some lines is. -/
def lengthOf (lines : List String) : Nat := (lines.map fun line => line.length + 1).sum

/-- A text is as long as its lines with their ends. -/
theorem length_unlines (lines : List String) : (unlines lines).length = lengthOf lines := by
  rw [unlines, String.length_join, List.map_map, lengthOf]
  refine congrArg List.sum (List.map_congr_left fun line _ => ?_)
  exact String.length_append line "\n"

theorem lengthOf_append (a b : List String) : lengthOf (a ++ b) = lengthOf a + lengthOf b := by
  rw [lengthOf, List.map_append, List.sum_append]
  rfl

/-- If the filled names are distinct, what is sent has the lines of the report. -/
theorem pairLines_fillMap {vars : Variables} {m : OrderedMap String} (h : Distinct vars m) :
    pairLines (Template.fillMap vars m) = resolvedLines vars m := by
  have hmerged : Entries.insertAll [] (filled vars m) = filled vars m :=
    Entries.insertAll_of_nodup (m := []) (distinct_iff.mp h)
  rw [pairLines, entries_fillMap, hmerged, resolvedLines_eq]

/-- If the filled names are not distinct, what is sent has shorter lines than the report. -/
theorem lengthOf_pairLines_lt {vars : Variables} {m : OrderedMap String} (h : ¬ Distinct vars m) :
    lengthOf (pairLines (Template.fillMap vars m)) < lengthOf (resolvedLines vars m) := by
  have hlt := Entries.sum_insertAll_lt
    (w := fun p : String × String => (pairLine p.1 p.2).length + 1)
    (fun p => Nat.succ_pos _) (m := []) List.nodup_nil (fun hn => h (distinct_iff.mpr hn))
  rw [List.map_nil, List.sum_nil, Nat.zero_add] at hlt
  rw [lengthOf, lengthOf, pairLines, entries_fillMap, resolvedLines_eq, List.map_map, List.map_map]
  exact hlt

/-- A map whose names do not stay different has some. -/
theorem isEmpty_of_not_distinct {vars : Variables} {m : OrderedMap String}
    (h : ¬ Distinct vars m) : m.isEmpty = false := by
  cases hm : m.isEmpty with
  | false => rfl
  | true =>
    rw [OrderedMap.isEmpty, List.isEmpty_iff] at hm
    refine absurd ?_ h
    rw [Distinct, OrderedMap.keys, hm]
    exact List.nodup_nil

/-- If the filled names are distinct, the headers of the report are those that are sent. -/
theorem sentHeaderLines_fillMap {vars : Variables} {headers : OrderedMap String}
    (h : Distinct vars headers) :
    sentHeaderLines (Template.fillMap vars headers) = headerLines vars headers := by
  rw [sentHeaderLines, headerLines, isEmpty_fillMap, pairLines_fillMap h]

/-- If the filled names are not distinct, the headers that are sent take less room than those of the
report. -/
theorem lengthOf_sentHeaderLines_lt {vars : Variables} {headers : OrderedMap String}
    (h : ¬ Distinct vars headers) :
    lengthOf (sentHeaderLines (Template.fillMap vars headers))
      < lengthOf (headerLines vars headers) := by
  have hsome := isEmpty_of_not_distinct h
  rw [sentHeaderLines, headerLines, isEmpty_fillMap, hsome]
  exact lengthOf_pairLines_lt h

/-- The headers that are sent take no more room than those of the report. -/
theorem lengthOf_sentHeaderLines_le (vars : Variables) (headers : OrderedMap String) :
    lengthOf (sentHeaderLines (Template.fillMap vars headers))
      ≤ lengthOf (headerLines vars headers) := by
  by_cases h : Distinct vars headers
  · rw [sentHeaderLines_fillMap h]
  · exact Nat.le_of_lt (lengthOf_sentHeaderLines_lt h)

/-- If its filled keys are distinct, a body is reported as it is sent. -/
theorem sentBodyLines_resolve {vars : Variables} {r : Request}
    (h : r.method.carriesBody = true → Distinct vars r.body) :
    sentBodyLines (r.resolve vars) = bodyLines vars r := by
  show (if !r.method.carriesBody then ["(No body)"]
    else if (Template.fillMap vars r.body).isEmpty then ["\x7b\x7d"]
    else pairLines (Template.fillMap vars r.body)) = _
  rw [bodyLines, isEmpty_fillMap]
  by_cases hm : r.method.carriesBody = true
  · rw [pairLines_fillMap (h hm)]
  · rw [if_pos (by simp [hm]), if_pos (by simp [hm])]

/-- If its filled keys are not distinct, a body that is sent takes less room than in the report. -/
theorem lengthOf_sentBodyLines_lt {vars : Variables} {r : Request}
    (hm : r.method.carriesBody = true) (h : ¬ Distinct vars r.body) :
    lengthOf (sentBodyLines (r.resolve vars)) < lengthOf (bodyLines vars r) := by
  show lengthOf (if !r.method.carriesBody then ["(No body)"]
    else if (Template.fillMap vars r.body).isEmpty then ["\x7b\x7d"]
    else pairLines (Template.fillMap vars r.body)) < _
  have hsome := isEmpty_of_not_distinct h
  rw [bodyLines, isEmpty_fillMap, hsome, hm]
  exact lengthOf_pairLines_lt h

/-- A body that is sent takes no more room than in the report. -/
theorem lengthOf_sentBodyLines_le (vars : Variables) (r : Request) :
    lengthOf (sentBodyLines (r.resolve vars)) ≤ lengthOf (bodyLines vars r) := by
  by_cases h : r.method.carriesBody = true ∧ ¬ Distinct vars r.body
  · exact Nat.le_of_lt (lengthOf_sentBodyLines_lt h.1 h.2)
  · rw [sentBodyLines_resolve fun hm => not_not.mp fun hd => h ⟨hm, hd⟩]

/-! ## Reports -/

/-- Two reports differ in length as their sections on headers and body do. -/
theorem length_linesAround (headers body : List String) (request : Request)
    (environment : Environment) (result : CallResult) :
    lengthOf (linesAround headers body request environment result)
      = lengthOf (linesAround [] [] request environment result)
        + lengthOf headers + lengthOf body := by
  simp only [linesAround, lengthOf_append]
  have hnil : lengthOf [] = 0 := rfl
  omega

/-- **A report shows what goes out exactly if no two names become equal.** The report of a call is
the one that is written from the headers and fields of the call as the engine resolves it, one line
for each of them in order, if and only if the names of the headers, and for a call with a body those
of its fields, stay different from each other when they are resolved. -/
theorem text_eq_echo_iff (request : Request) (environment : Environment) (result : CallResult) :
    text request environment result = echo request environment result ↔
      Distinct environment.vars request.headers ∧
        (request.method.carriesBody = true → Distinct environment.vars request.body) := by
  constructor
  · intro heq
    let sentHeaders := sentHeaderLines (Template.fillMap environment.vars request.headers)
    let sentBody := sentBodyLines (request.resolve environment.vars)
    have hheaders : lengthOf sentHeaders ≤ _ := lengthOf_sentHeaderLines_le _ request.headers
    have hbody : lengthOf sentBody ≤ _ := lengthOf_sentBodyLines_le _ request
    have htext := length_linesAround (headerLines environment.vars request.headers)
      (bodyLines environment.vars request) request environment result
    have hecho := length_linesAround sentHeaders sentBody request environment result
    have hlength : lengthOf (lines request environment result)
        = lengthOf (linesAround sentHeaders sentBody request environment result) := by
      rw [← length_unlines, ← length_unlines]
      exact congrArg String.length heq
    rw [lines_eq_linesAround] at hlength
    -- neither section is longer where names are merged, so that neither may be shorter
    constructor
    · by_contra hd
      have hlt : lengthOf sentHeaders < _ := lengthOf_sentHeaderLines_lt hd
      omega
    · intro hm
      by_contra hd
      have hlt : lengthOf sentBody < _ := lengthOf_sentBodyLines_lt hm hd
      omega
  · rintro ⟨hh, hb⟩
    rw [text, lines_eq_linesAround, ← sentHeaderLines_fillMap hh, ← sentBodyLines_resolve hb]
    rfl

/-- **A report may show a header that is not sent.** Two headers whose names become one: both are
shown, while only the value of the second goes out. -/
theorem shows_unsent_header :
    let request : Request := {
      name := "n"
      url := "http://h/"
      headers := .ofList [("\x7b\x7ba\x7d\x7d", "1"), ("\x7b\x7bb\x7d\x7d", "2")] }
    let environment : Environment := { name := "e", vars := .ofList [("a", "X"), ("b", "X")] }
    let result := CallResult.failure "" 0
    headerLines environment.vars request.headers = ["X: 1", "X: 2"] ∧
      (request.resolve environment.vars).headers = .ofList [("X", "2")] ∧
      text request environment result ≠ echo request environment result := by
  decide +kernel

end Report

end CallBook
