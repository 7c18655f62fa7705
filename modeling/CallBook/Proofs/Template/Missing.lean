import CallBook.Execution.Resolved
import CallBook.Proofs.Template.Cut

/-!
# Which names are missing

A call is checked after its placeholders were filled in: what still looks like a placeholder then is
reported as missing. That this names exactly the unknown placeholders of the saved URL hangs on the
seams. A value with a brace in it, or an empty one, could complete a placeholder with stray braces
around it; values without braces that are not empty (`Plain`) cannot.

The argument is about one seam at a time. If a placeholder begins inside a literal, then its closing
braces lie either in the literal itself or behind the next opening braces, so whether it begins
there does not depend on what was put in after the literal (`begins_append_placeholder`). A leftmost
cut therefore stays leftmost when known placeholders become part of the literals around them
(`leftmost_settle`), and a text has only one leftmost cut.
-/

namespace CallBook.Template

/-! ## Seams -/

/-- Closing braces whose first one lies in `b` lie in `b` both, if what follows starts with none. -/
theorem exists_closing_of_mem {b next found tail : List Char} (hmem : '}' ∈ b)
    (hf : '}' ∉ found) (hnext : next.head? ≠ some '}')
    (h : b ++ next = found ++ '}' :: '}' :: tail) : ∃ x, b = found ++ '}' :: '}' :: x := by
  rcases List.append_eq_append_iff.mp h with ⟨x, hfx, -⟩ | ⟨x, hbx, hx⟩
  · exact absurd (hfx ▸ List.mem_append_left x hmem) hf
  · match x, hx with
    | [], _ => exact absurd (List.append_nil found ▸ hbx ▸ hmem) hf
    | [y], hx =>
      have hhead : '}' :: tail = next := (List.cons.inj hx).2
      exact absurd (hhead ▸ List.head?_cons) hnext
    | y :: z :: x, hx =>
      obtain ⟨hy, hx⟩ := List.cons.inj hx
      obtain ⟨hz, -⟩ := List.cons.inj hx
      exact ⟨x, by rw [hbx, ← hy, ← hz]⟩

/-- Where a placeholder begins in a literal, it does so before any other placeholder as well. -/
theorem begins_append_placeholder {a next name rest : List Char} (ha : a ≠ [])
    (hnext : next.head? ≠ some '}') (hn : IsName name) (h : Begins (a ++ next)) :
    Begins (a ++ (placeholder name ++ rest)) := by
  obtain ⟨found, tail, hf, he⟩ := h
  match a, ha with
  | [c], _ =>
    -- one brace before the placeholder is taken into its name
    have hc : c = '{' := (List.cons.inj he).1
    subst hc
    refine ⟨'{' :: name, rest, ⟨List.cons_ne_nil _ _, ?_⟩, by simp [placeholder]⟩
    simpa using hn.2
  | c :: d :: b, _ =>
    have hcd : c = '{' ∧ d = '{' ∧ b ++ next = found ++ '}' :: '}' :: tail := by
      simpa [placeholder] using he
    obtain ⟨rfl, rfl, hb⟩ := hcd
    by_cases hmem : '}' ∈ b
    · -- the name ends inside the literal, and so do the closing braces
      obtain ⟨x, rfl⟩ := exists_closing_of_mem hmem hf.2 hnext hb
      exact ⟨found, x ++ (placeholder name ++ rest), hf, by simp [placeholder]⟩
    · -- the name reaches over the opening braces to the end of the placeholder's own name
      refine ⟨b ++ '{' :: '{' :: name, rest, ⟨by simp, ?_⟩, by simp [placeholder]⟩
      simpa [hmem] using hn.2

/-- A literal before a placeholder is quiet whatever replaces the placeholder and what follows it,
as long as that does not start with a closing brace. -/
theorem quiet_of_quiet_placeholder {literal next name rest : List Char}
    (hnext : next.head? ≠ some '}') (hn : IsName name)
    (h : Quiet literal (placeholder name ++ rest)) : Quiet literal next := by
  induction literal with
  | nil => exact quiet_nil next
  | cons c literal ih =>
    rw [quiet_cons] at h ⊢
    refine ⟨fun hb => h.1 ?_, ih h.2⟩
    exact begins_append_placeholder (a := c :: literal) (List.cons_ne_nil _ _) hnext hn hb

/-- Without an opening brace no placeholder begins. -/
theorem quiet_of_not_mem {literal : List Char} (h : '{' ∉ literal) (next : List Char) :
    Quiet literal next := by
  induction literal with
  | nil => exact quiet_nil next
  | cons c literal ih =>
    rw [List.mem_cons, not_or] at h
    exact quiet_cons.mpr ⟨not_begins_of_head (Ne.symm h.1), ih h.2⟩

/-! ## Filling in plain values -/

/-- No value is empty or holds a brace. -/
def Plain (vars : Variables) : Prop :=
  ∀ p ∈ vars.entries, p.2 ≠ "" ∧ '{' ∉ p.2.toList ∧ '}' ∉ p.2.toList

instance (vars : Variables) : Decidable (Plain vars) :=
  inferInstanceAs (Decidable (∀ p ∈ vars.entries, p.2 ≠ "" ∧ '{' ∉ p.2.toList ∧ '}' ∉ p.2.toList))

/-- The values of plain variables are not empty and hold no braces. -/
theorem Plain.of_get? {vars : Variables} (h : Plain vars) {name value : String}
    (hv : vars.get? name = some value) :
    value.toList ≠ [] ∧ '{' ∉ value.toList ∧ '}' ∉ value.toList := by
  rw [OrderedMap.get?, Entries.lookup_eq_find?, Option.map_eq_some_iff] at hv
  obtain ⟨p, hp, rfl⟩ := hv
  obtain ⟨hne, hopen, hclose⟩ := h p (List.mem_of_find?_eq_some hp)
  exact ⟨fun e => hne (String.toList_eq_nil_iff.mp e), hopen, hclose⟩

namespace Cut

/-- The cut with its known placeholders filled in: they become part of the literals around them. -/
def settle (vars : Variables) : Cut → Cut
  | last literal => last literal
  | hole literal name more =>
    match vars.get? (String.ofList name) with
    | some value => (more.settle vars).after (literal ++ value.toList)
    | none => hole literal name (more.settle vars)

/-- Settling a cut makes the filled text. -/
theorem text_settle (vars : Variables) (d : Cut) : (d.settle vars).text = d.fill vars := by
  induction d with
  | last literal => rfl
  | hole literal name more ih =>
    rw [settle, fill]
    cases vars.get? (String.ofList name) with
    | some value => simp [ih]
    | none => simp [text, ih]

/-- A settled cut has the names that no variable has. -/
theorem names_settle (vars : Variables) (d : Cut) :
    (d.settle vars).names = d.names.filter fun name => name ∉ vars.keys := by
  induction d with
  | last literal => rfl
  | hole literal name more ih =>
    rw [settle, names, List.filter_cons]
    cases h : vars.get? (String.ofList name) with
    | some value =>
      have hmem : String.ofList name ∈ vars.keys := by
        by_contra hnot
        rw [OrderedMap.get?, Entries.lookup_eq_none_iff.mpr hnot] at h
        cases h
      simp [hmem, ih]
    | none =>
      have hnot : String.ofList name ∉ vars.keys := Entries.lookup_eq_none_iff.mp h
      simp [hnot, names, ih]

/-- Filling in plain values makes no placeholder and hides none. -/
theorem leftmost_settle {vars : Variables} (hv : Plain vars) {d : Cut} (h : d.Leftmost) :
    (d.settle vars).Leftmost := by
  induction d with
  | last literal => exact h
  | hole literal name more ih =>
    obtain ⟨hn, hq, hm⟩ := h
    rw [settle]
    cases hget : vars.get? (String.ofList name) with
    | some value =>
      obtain ⟨hne, hopen, hclose⟩ := hv.of_get? hget
      rw [leftmost_after, quiet_append]
      refine ⟨⟨quiet_of_quiet_placeholder ?_ hn hq, quiet_of_not_mem hopen _⟩, ih hm⟩
      obtain ⟨c, chars, hc⟩ := List.exists_cons_of_ne_nil hne
      rw [hc, List.cons_append, List.head?_cons]
      intro he
      exact hclose (hc ▸ Option.some.inj he ▸ List.mem_cons_self)
    | none =>
      refine ⟨hn, quiet_of_quiet_placeholder ?_ hn hq, ih hm⟩
      simp [placeholder]

end Cut

/-- The settled cut of a text is a cut of the filled text. -/
theorem text_settle_of_leftmost {text : String} {d : Cut} (ht : d.text = text.toList)
    (hd : d.Leftmost) (vars : Variables) : (d.settle vars).text = (fill vars text).toList := by
  rw [Cut.text_settle, fill_eq_fillPieces, fillPieces_of_leftmost ht hd, String.toList_ofList]

/-- A filled text has the names that no variable has. -/
theorem names_fill {vars : Variables} (hv : Plain vars) (text : String) :
    names (fill vars text) = (names text).filter fun name => name ∉ vars.keys := by
  obtain ⟨d, ⟨ht, hd⟩, -⟩ := existsUnique_leftmost text.toList
  rw [names_of_leftmost (text_settle_of_leftmost ht hd vars) (Cut.leftmost_settle hv hd),
    names_of_leftmost ht hd, Cut.names_settle, Entries.eraseDups_filter]

theorem nodup_names (text : String) : (names text).Nodup := OrderedMap.nodup _

end CallBook.Template

namespace CallBook

open Template (Plain)

/-- The check after resolving fails on placeholders exactly if some are left. -/
theorem ResolvedRequest.target?_eq_unresolved_iff {r : ResolvedRequest} {vars : Variables}
    {missing available : List String} :
    r.target? vars = .error (.unresolved missing available) ↔
      Template.names r.url ≠ [] ∧ missing = Template.names r.url ∧ available = vars.keys := by
  unfold ResolvedRequest.target?
  cases hn : Template.names r.url with
  | nil =>
    cases Url.parse (Text.trimmed r.url) <;> simp [Except.mapError]
  | cons name more =>
    simp only [List.isEmpty_cons, Bool.not_false, if_true, Except.error.injEq,
      CallError.unresolved.injEq]
    constructor
    · rintro ⟨rfl, rfl⟩
      exact ⟨List.cons_ne_nil _ _, rfl, rfl⟩
    · rintro ⟨-, rfl, rfl⟩
      exact ⟨rfl, rfl⟩

/-- **Exactly the unknown names are missing.** With values that are not empty and hold no brace, a
call is refused for missing variables if and only if some placeholder of its saved URL has a name
that is no variable. The missing names are then those of the saved URL that are no variables, each
once and in first-seen order; the available ones are all variables in order, and no name is both. -/
theorem Request.resolve_unresolved_iff (r : Request) (e : Environment) (hv : Plain e.vars) :
    ((∃ missing available,
        (r.resolve e.vars).target? e.vars = .error (.unresolved missing available)) ↔
      ∃ name ∈ Template.names r.url, name ∉ e.vars.keys) ∧
    ∀ missing available,
      (r.resolve e.vars).target? e.vars = .error (.unresolved missing available) →
        missing = (Template.names r.url).filter (fun name => name ∉ e.vars.keys) ∧
          missing.Nodup ∧ available = e.vars.keys ∧ missing.Disjoint available := by
  have hnames : Template.names (r.resolve e.vars).url
      = (Template.names r.url).filter fun name => name ∉ e.vars.keys :=
    Template.names_fill hv r.url
  constructor
  · simp only [ResolvedRequest.target?_eq_unresolved_iff, hnames]
    constructor
    · rintro ⟨missing, available, hne, -, -⟩
      obtain ⟨name, hname⟩ := List.exists_mem_of_ne_nil _ hne
      obtain ⟨hmem, hnot⟩ := List.mem_filter.mp hname
      exact ⟨name, hmem, of_decide_eq_true hnot⟩
    · rintro ⟨name, hmem, hnot⟩
      have hin : name ∈ (Template.names r.url).filter fun name => name ∉ e.vars.keys :=
        List.mem_filter.mpr ⟨hmem, decide_eq_true hnot⟩
      exact ⟨_, _, List.ne_nil_of_mem hin, rfl, rfl⟩
  · intro missing available h
    rw [ResolvedRequest.target?_eq_unresolved_iff, hnames] at h
    obtain ⟨-, rfl, rfl⟩ := h
    refine ⟨rfl, (Template.nodup_names r.url).filter _, rfl, ?_⟩
    intro name hmissing havailable
    exact of_decide_eq_true (List.mem_filter.mp hmissing).2 havailable

/-- A URL with a known and an unknown name, and a stray brace behind the value. -/
theorem Request.resolve_unresolved_version :
    let url := Template.placeholder "host".toList ++ '}' :: Template.placeholder "version".toList
    let e : Environment := { vars := .ofList [("host", "local"), ("token", "abc")] }
    let r : Request := { url := String.ofList url }
    Plain e.vars ∧ (r.resolve e.vars).target? e.vars
      = .error (.unresolved ["version"] ["host", "token"]) := by
  intro url e r
  have hv : Plain e.vars := by decide
  have hnames : Template.names r.url = ["host", "version"] :=
    Template.names_of_leftmost
      (d := .hole [] "host".toList (.hole ['}'] "version".toList (.last [])))
      (by decide) (by decide)
  obtain ⟨hiff, hexact⟩ := Request.resolve_unresolved_iff r e hv
  rw [hnames] at hiff hexact
  obtain ⟨missing, available, h⟩ := hiff.mpr ⟨"version", by decide, by decide⟩
  obtain ⟨hm, -, ha, -⟩ := hexact missing available h
  refine ⟨hv, ?_⟩
  rw [h, hm, ha]
  decide

end CallBook
