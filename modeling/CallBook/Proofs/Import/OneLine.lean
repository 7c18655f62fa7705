import Mathlib.Data.List.Chain
import CallBook.Import.Curl
import CallBook.Proofs.Shell.Quoting

/-!
# What bringing a command onto one line leaves alone

Before a command is split into words, line continuations and runs of white space become single
spaces everywhere in it, inside quotes too. A text comes through unchanged if its only white space
is single spaces (`SingleSpaced`) and none of it stands at an end (`oneLine_of_singleSpaced`).

Single spacing is put together from parts: it holds of two such texts with a visible character
between them, and of a text written in any way in which a space stands for itself and everything
else is written visibly (`singleSpaced_flatMap`). Quoting is such a way, so a whole command is
single spaced as soon as the words in it are (`oneLine_commandLine`).
-/

namespace CallBook.Import

open Text (isBlank)

/-! ## Single spacing -/

/-- No two spaces follow each other. -/
def NoDoubleSpace (s : List Char) : Prop := s.IsChain fun a b => a ≠ ' ' ∨ b ≠ ' '

instance (s : List Char) : Decidable (NoDoubleSpace s) :=
  inferInstanceAs (Decidable (s.IsChain fun a b => a ≠ ' ' ∨ b ≠ ' '))

/-- The only white space is single spaces. -/
structure SingleSpaced (s : List Char) : Prop where
  only_space : ∀ c ∈ s, isBlank c = true → c = ' '
  noDouble : NoDoubleSpace s

/-- What white space must satisfy is checked character by character. -/
theorem forall_blank_iff {s : List Char} {p : Char → Prop} [DecidablePred p] :
    (∀ c ∈ s, isBlank c = true → p c) ↔ (s.all fun c => !isBlank c || decide (p c)) = true := by
  rw [List.all_eq_true]
  refine forall₂_congr fun c _ => ?_
  cases isBlank c <;> simp

/-- A text is single spaced if its blanks are spaces, no two of them in a row. -/
theorem singleSpaced_iff {s : List Char} :
    SingleSpaced s ↔ (s.all fun c => !isBlank c || decide (c = ' ')) = true ∧ NoDoubleSpace s := by
  rw [← forall_blank_iff]
  exact ⟨fun h => ⟨h.only_space, h.noDouble⟩, fun h => ⟨h.1, h.2⟩⟩

instance (s : List Char) : Decidable (SingleSpaced s) := decidable_of_iff _ singleSpaced_iff.symm

theorem ne_space {c : Char} (h : isBlank c = false) : c ≠ ' ' := by
  rintro rfl
  cases h

theorem SingleSpaced.tail {c : Char} {s : List Char} (h : SingleSpaced (c :: s)) :
    SingleSpaced s where
  only_space := fun d hd => h.only_space d (List.mem_cons_of_mem c hd)
  noDouble := List.IsChain.tail h.noDouble

theorem NoDoubleSpace.head?_ne {s : List Char} (h : NoDoubleSpace (' ' :: s)) :
    s.head? ≠ some ' ' := by
  intro hs
  rcases List.IsChain.rel_head? h (y := ' ') hs with he | he
  · exact he rfl
  · exact he rfl

theorem singleSpaced_nil : SingleSpaced [] := ⟨List.forall_mem_nil _, .nil⟩

theorem isBlank_of_visible {s : List Char} (h : s.any isBlank = false) {c : Char} (hc : c ∈ s) :
    isBlank c = false :=
  Bool.eq_false_iff.mpr (List.any_eq_false.mp h c hc)

/-- Nothing is white space. -/
theorem singleSpaced_of_visible {s : List Char} (h : s.any isBlank = false) : SingleSpaced s where
  only_space := by
    intro c hc hb
    rw [isBlank_of_visible h hc] at hb
    cases hb
  noDouble := by
    induction s with
    | nil => exact .nil
    | cons c s ih =>
      rw [List.any_cons, Bool.or_eq_false_iff] at h
      exact List.IsChain.cons (ih h.2) fun _ _ => Or.inl (ne_space h.1)

/-- Two texts may follow each other if no space stands at the end of the first. -/
theorem SingleSpaced.append {a b : List Char} (ha : SingleSpaced a) (hb : SingleSpaced b)
    (hend : a.getLast? ≠ some ' ') : SingleSpaced (a ++ b) where
  only_space := by
    intro c hc hblank
    rcases List.mem_append.mp hc with hc | hc
    · exact ha.only_space c hc hblank
    · exact hb.only_space c hc hblank
  noDouble := by
    refine List.IsChain.append ha.noDouble hb.noDouble ?_
    intro x hx y _
    refine Or.inl ?_
    rintro rfl
    exact hend hx

/-- A space may stand before a text that does not begin with one. -/
theorem SingleSpaced.cons_space {s : List Char} (h : SingleSpaced s) (hs : s.head? ≠ some ' ') :
    SingleSpaced (' ' :: s) where
  only_space := by
    intro c hc hblank
    rcases List.mem_cons.mp hc with rfl | hc
    · rfl
    · exact h.only_space c hc hblank
  noDouble := by
    refine List.IsChain.cons h.noDouble ?_
    intro y hy
    refine Or.inr ?_
    rintro rfl
    exact hs hy

/-- Anything visible may stand before a text. -/
theorem SingleSpaced.cons {c : Char} {s : List Char} (hc : isBlank c = false)
    (h : SingleSpaced s) : SingleSpaced (c :: s) := by
  have hone : SingleSpaced [c] := singleSpaced_of_visible (by simpa using hc)
  exact hone.append h (by simpa using ne_space hc)

/-- Anything visible may stand behind a text. -/
theorem SingleSpaced.concat {c : Char} {s : List Char} (hc : isBlank c = false)
    (h : SingleSpaced s) : SingleSpaced (s ++ [c]) where
  only_space := by
    intro d hd hblank
    rcases List.mem_append.mp hd with hd | hd
    · exact h.only_space d hd hblank
    · rw [List.mem_singleton.mp hd, hc] at hblank
      cases hblank
  noDouble := by
    refine List.IsChain.append h.noDouble (.singleton c) ?_
    intro x _ y hy
    rw [List.head?_cons, Option.mem_some_iff] at hy
    exact Or.inr (hy ▸ ne_space hc)

/-- A text without double spaces is single spaced when it is written in a way in which a space
stands for itself and everything else is written visibly. -/
theorem singleSpaced_flatMap {f : Char → List Char} {s : List Char} (hspace : f ' ' = [' '])
    (hf : ∀ c ∈ s, c ≠ ' ' → f c ≠ [] ∧ (f c).any isBlank = false) (hs : NoDoubleSpace s) :
    SingleSpaced (s.flatMap f) := by
  induction s with
  | nil => exact singleSpaced_nil
  | cons c s ih =>
    have ih := ih (fun d hd => hf d (List.mem_cons_of_mem c hd)) (List.IsChain.tail hs)
    rw [List.flatMap_cons]
    by_cases hc : c = ' '
    · subst hc
      rw [hspace]
      refine ih.cons_space ?_
      -- what follows is written for something that is no space, and begins visibly
      cases s with
      | nil => exact fun heq => by cases heq
      | cons d s =>
        have hd : d ≠ ' ' := by simpa using hs.head?_ne
        obtain ⟨hne, hvisible⟩ := hf d (List.mem_cons_of_mem _ List.mem_cons_self) hd
        obtain ⟨e, more, he⟩ := List.exists_cons_of_ne_nil hne
        have hblank := isBlank_of_visible hvisible (c := e) (by simp [he])
        rw [List.flatMap_cons, he, List.cons_append, List.head?_cons]
        exact fun heq => ne_space hblank (Option.some.inj heq)
    · obtain ⟨hne, hvisible⟩ := hf c List.mem_cons_self hc
      refine (singleSpaced_of_visible hvisible).append ih ?_
      have hblank := isBlank_of_visible hvisible (List.getLast_mem hne)
      rw [List.getLast?_eq_some_getLast hne]
      exact fun heq => ne_space hblank (Option.some.inj heq)

/-! ## One line -/

/-- A single spaced text needs no squeezing. -/
theorem squeeze_of_singleSpaced {s : List Char} (h : SingleSpaced s) : squeeze s = s := by
  have hfrom : ∀ inRun, (inRun = true → s.head? ≠ some ' ') → squeezeFrom inRun s = s := by
    induction s with
    | nil => intro inRun _; rfl
    | cons c s ih =>
      intro inRun hrun
      rw [squeezeFrom]
      cases hc : isBlank c with
      | false => rw [if_neg (by decide), ih h.tail false (fun he => by cases he)]
      | true =>
        have hspace := h.only_space c List.mem_cons_self hc
        subst hspace
        have hnot : inRun = false := by
          cases inRun with
          | false => rfl
          | true => exact absurd rfl (hrun rfl)
        rw [if_pos rfl, hnot, if_neg (by decide), ih h.tail true fun _ => h.noDouble.head?_ne]
  exact hfrom false fun he => by cases he

/-- Without a line end there is no continuation. -/
theorem joinLines_of_not_mem {s : List Char} (h : '\n' ∉ s) : joinLines s = s := by
  induction s with
  | nil => rw [joinLines]
  | cons c s ih =>
    rw [List.mem_cons, not_or] at h
    have hrun : (s.takeWhile isBlank).contains '\n' = false := by
      rw [Bool.eq_false_iff, Ne, List.contains_iff_mem]
      exact fun hm => h.2 ((List.takeWhile_prefix isBlank).subset hm)
    rw [joinLines, hrun, Bool.and_false, ih h.2]
    rfl

/-- A single spaced text without blanks around it is one line as it stands. -/
theorem oneLine_of_singleSpaced {s : List Char} (h : SingleSpaced s) (ht : Text.trim s = s) :
    oneLine s = s := by
  have hn : '\n' ∉ s := fun hm => absurd (h.only_space '\n' hm rfl) (by decide)
  rw [oneLine, ht, joinLines_of_not_mem hn, squeeze_of_singleSpaced h, ht]

/-! ## Commands -/

/-- An argument as it may stand in a command: it begins and ends visibly, and its only white space
is single spaces. -/
structure Kept (text : List Char) : Prop where
  begins : ∃ c more, text = c :: more ∧ isBlank c = false
  ends : ∃ before c, text = before ++ [c] ∧ isBlank c = false
  singleSpaced : SingleSpaced text

/-- A text that is kept has no blanks around it. -/
theorem Kept.trim {text : List Char} (h : Kept text) : Text.trim text = text := by
  obtain ⟨c, more, hc, hblank⟩ := h.begins
  obtain ⟨before, d, hd, hend⟩ := h.ends
  have hstart : Text.trimStart text = text := by
    rw [hc, Text.trimStart_cons_of_not_blank hblank]
  rw [Text.trim, hstart, hd, Text.trimEnd_append_of_not_blank hend]

/-- A text without blanks is kept. -/
theorem kept_of_visible {text : List Char} (hne : text ≠ []) (h : text.any isBlank = false) :
    Kept text where
  begins := by
    obtain ⟨c, more, rfl⟩ := List.exists_cons_of_ne_nil hne
    exact ⟨c, more, rfl, isBlank_of_visible h List.mem_cons_self⟩
  ends := by
    have hlast := List.dropLast_append_getLast hne
    have hblank := isBlank_of_visible h (List.getLast_mem hne)
    exact ⟨text.dropLast, text.getLast hne, hlast.symm, hblank⟩
  singleSpaced := singleSpaced_of_visible h

/-- Quotes put around a word make its white space harmless at the ends. -/
theorem kept_singleQuoted {word : List Char} (h : SingleSpaced word) :
    Kept (Shell.singleQuoted word) where
  begins := ⟨'\'', _, rfl, rfl⟩
  ends := ⟨'\'' :: word.flatMap Shell.quotedChar, '\'', rfl, rfl⟩
  singleSpaced := by
    refine .cons rfl (.concat rfl (singleSpaced_flatMap rfl ?_ h.noDouble))
    intro c hc hne
    by_cases hq : c = '\''
    · rw [hq]
      decide
    · rw [Shell.quotedChar, if_neg hq]
      refine ⟨List.cons_ne_nil _ _, ?_⟩
      rw [List.any_cons, List.any_nil, Bool.or_false, Bool.eq_false_iff]
      exact fun hblank => hne (h.only_space c hc hblank)

/-- Two arguments with a space between them. -/
theorem Kept.append {a b : List Char} (ha : Kept a) (hb : Kept b) : Kept (a ++ ' ' :: b) := by
  obtain ⟨before, d, hd, hend⟩ := ha.ends
  obtain ⟨c, more, hc, hstart⟩ := hb.begins
  refine ⟨?_, ?_, ?_⟩
  · obtain ⟨e, rest, rfl, he⟩ := ha.begins
    exact ⟨e, rest ++ ' ' :: b, rfl, he⟩
  · obtain ⟨front, e, rfl, he⟩ := hb.ends
    exact ⟨a ++ ' ' :: front, e, by simp, he⟩
  · refine ha.singleSpaced.append (hb.singleSpaced.cons_space ?_) ?_
    · simpa [hc] using ne_space hstart
    · simpa [hd] using ne_space hend

/-- A command of arguments that are kept is kept. -/
theorem kept_commandLine {arguments : List Shell.Argument} (hne : arguments ≠ [])
    (h : ∀ a ∈ arguments, Kept a.text) : Kept (Shell.commandLine arguments) := by
  induction arguments with
  | nil => exact absurd rfl hne
  | cons a more ih =>
    have ha := h a List.mem_cons_self
    cases more with
    | nil => exact ha
    | cons b more =>
      rw [Shell.commandLine_cons_cons]
      exact ha.append (ih (List.cons_ne_nil _ _) fun c hc => h c (List.mem_cons_of_mem a hc))

/-- A command of arguments that are kept is one line as it stands. -/
theorem oneLine_commandLine {arguments : List Shell.Argument} (hne : arguments ≠ [])
    (h : ∀ a ∈ arguments, Kept a.text) :
    oneLine (Shell.commandLine arguments) = Shell.commandLine arguments := by
  have hkept := kept_commandLine hne h
  exact oneLine_of_singleSpaced hkept.singleSpaced hkept.trim

end CallBook.Import
