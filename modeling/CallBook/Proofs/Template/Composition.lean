import CallBook.Proofs.Template.Missing

/-!
# Filling in twice

A text may be filled in with some variables now and with others later. If the first values are plain
nothing is lost by that: filling in twice is filling in once with the first variables laid over the
second (`fill_fill`). The second values may be anything, since no pass comes after them.

Plain values leave the cut of a text in place: what the second pass finds is the cut of the first
with the known placeholders settled (`leftmost_settle`), however far their values have moved the
rest. So the two passes are compared on one cut, hole by hole.
-/

namespace CallBook.Template

namespace Cut

@[simp] theorem fill_after (vars : Variables) (literal : List Char) (d : Cut) :
    (d.after literal).fill vars = literal ++ d.fill vars := by
  cases d <;> simp [after, fill]

/-- A hole that the first variables fill is part of a literal by the time of the second; every other
hole is still there for them. -/
theorem fill_settle {first second vars : Variables}
    (hvars : ∀ name, vars.get? name = (first.get? name).or (second.get? name)) (d : Cut) :
    (d.settle first).fill second = d.fill vars := by
  induction d with
  | last literal => rfl
  | hole literal name more ih =>
    have hname := hvars (String.ofList name)
    rw [settle, fill]
    cases hfirst : first.get? (String.ofList name) with
    | some value =>
      rw [hfirst, Option.some_or] at hname
      simp [hname, ih]
    | none =>
      rw [hfirst, Option.none_or] at hname
      show literal ++ (_ ++ (more.settle first).fill second) = _
      rw [hname, ih]

end Cut

/-- **Filling in twice is filling in once.** With first values that are not empty and hold no brace,
and any second values at all, the two passes give what one pass gives with variables that look a
name up among the first and, where it is not there, among the second; the first laid over the second
are such variables. Filling in the same plain values again changes nothing. -/
theorem fill_fill {first : Variables} (hfirst : Plain first) (second : Variables) (text : String) :
    (∀ vars : Variables,
      (∀ name, vars.get? name = (first.get? name).or (second.get? name)) →
        fill second (fill first text) = fill vars text) ∧
    fill second (fill first text) = fill (first.laidOver second) text ∧
    fill first (fill first text) = fill first text := by
  obtain ⟨d, ⟨ht, hd⟩, -⟩ := existsUnique_leftmost text.toList
  have hcut := text_settle_of_leftmost ht hd first
  have hleft := Cut.leftmost_settle hfirst hd
  -- both passes of any later filling are read off the one cut `d`
  have hpasses : ∀ later vars : Variables,
      (∀ name, vars.get? name = (first.get? name).or (later.get? name)) →
        fill later (fill first text) = fill vars text := by
    intro later vars hvars
    rw [fill_eq_fillPieces later, fillPieces_of_leftmost hcut hleft, Cut.fill_settle hvars,
      fill_eq_fillPieces vars, fillPieces_of_leftmost ht hd]
  refine ⟨hpasses second, hpasses second _ (OrderedMap.get?_laidOver first second), ?_⟩
  exact hpasses first first fun name => Option.or_self.symm

/-- The first value stands between stray braces that must not become part of a placeholder; the
second value of the same name does not count, and one that looks like a placeholder stays. -/
theorem fill_fill_stray_braces :
    let first : Variables := .ofList [("a", "1")]
    let second : Variables := .ofList [("a", "2"), ("b", "{{a}}")]
    let text := String.ofList
      (['{', '{', 'b', '}'] ++ placeholder ['a'] ++ '}' :: placeholder ['b'])
    Plain first ∧
      fill second (fill first text) = String.ofList ("{{b}1}{{a}}".toList) := by
  intro first second text
  have hfirst : Plain first := by decide
  refine ⟨hfirst, ?_⟩
  rw [(fill_fill hfirst second text).2.1, fill_eq_fillPieces,
    fillPieces_of_leftmost
      (d := .hole ['{', '{', 'b', '}'] ['a'] (.hole ['}'] ['b'] (.last [])))
      (by decide) (by decide)]
  decide

end CallBook.Template
